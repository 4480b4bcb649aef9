import FrameTap.Proofs.Header.RoundTrip
import FrameTap.Proofs.Synchronizer.Views

set_option autoImplicit false

namespace FrameTap

section Fronts

variable {bytes other : Bytes} {front : Nat} (agree : other.take front = bytes.take front)

include agree

theorem Bytes.word32At_of_front {offset : Nat} (inside : offset + 4 ≤ front) :
    other.word32At offset = bytes.word32At offset := by
  rw [← word32At_take inside, agree, word32At_take inside]

theorem SingleHeader.read_of_front (enough : Protocol.single.headerLength ≤ front) :
    (SingleHeader.read other).1 = (SingleHeader.read bytes).1 := by
  rw [← read_take enough, agree, read_take enough]

theorem RingHeader.read_of_front (enough : Protocol.ring.headerLength ≤ front) :
    (RingHeader.read other).1 = (RingHeader.read bytes).1 := by
  rw [← read_take enough, agree, read_take enough]

theorem Bytes.length_of_front (enough : front ≤ bytes.length) : front ≤ other.length := by
  have lengths := congrArg List.length agree
  simp only [List.length_take] at lengths
  omega

end Fronts

namespace Header

variable {bytes other : Bytes}

/-- How many bytes are looked at before it is known what a byte string is decoded to. -/
def consulted (bytes : Bytes) : Nat :=
  if bytes.length < preambleLength then
    preambleLength
  else if bytes.word32At 0 ≠ magicNumber then
    preambleLength
  else if bytes.word32At 4 = Protocol.single.version then
    Protocol.single.headerLength
  else if bytes.word32At 4 = Protocol.ring.version then
    Protocol.ring.headerLength
  else
    preambleLength

theorem preambleLength_le_consulted (bytes : Bytes) : preambleLength ≤ consulted bytes := by
  rw [consulted]
  split_ifs <;> decide

-- A byte string is cut short if it ends before all that is looked at, and that length is reported.
theorem decode_truncated_iff {needed available : Nat} :
    decode bytes = .error (.truncated needed available) ↔
      bytes.length < consulted bytes ∧ needed = consulted bytes ∧ available = bytes.length := by
  rw [decode_eq, consulted]
  split_ifs with short foreign single cut ring cut <;> simp_all [eq_comm]

-- Every test that decoding makes is made on the bytes that agree.
theorem decode_of_front (enough : consulted bytes ≤ bytes.length)
    (agree : other.take (consulted bytes) = bytes.take (consulted bytes)) :
    decode other = decode bytes := by
  have preamble := preambleLength_le_consulted bytes
  have magic : other.word32At 0 = bytes.word32At 0 :=
    Bytes.word32At_of_front agree (Nat.le_trans (by decide) preamble)
  have version : other.word32At 4 = bytes.word32At 4 := Bytes.word32At_of_front agree preamble
  have long := Bytes.length_of_front agree enough
  have noPreamble : ¬bytes.length < preambleLength := by omega
  have noPreambleOther : ¬other.length < preambleLength := by omega
  rw [decode_eq, decode_eq bytes, magic, version, if_neg noPreamble, if_neg noPreambleOther]
  by_cases foreign : bytes.word32At 0 ≠ magicNumber
  · rw [if_pos foreign, if_pos foreign]
  rw [if_neg foreign, if_neg foreign]
  rw [consulted, if_neg noPreamble, if_neg foreign] at enough agree long
  by_cases single : bytes.word32At 4 = Protocol.single.version
  · rw [if_pos single] at enough agree long
    rw [if_pos single, if_pos single, if_neg (Nat.not_lt.mpr long), if_neg (Nat.not_lt.mpr enough),
      SingleHeader.read_of_front agree (Nat.le_refl _)]
  rw [if_neg single] at enough agree long
  rw [if_neg single, if_neg single]
  by_cases ring : bytes.word32At 4 = Protocol.ring.version
  · rw [if_pos ring] at enough agree long
    rw [if_pos ring, if_pos ring, if_neg (Nat.not_lt.mpr long), if_neg (Nat.not_lt.mpr enough),
      RingHeader.read_of_front agree (Nat.le_refl _)]
  · rw [if_neg ring, if_neg ring]

theorem decode_append (rest : Bytes) (enough : consulted bytes ≤ bytes.length) :
    decode (bytes ++ rest) = decode bytes :=
  decode_of_front enough (List.take_append_of_le_length enough)

theorem consulted_of_single {h : SingleHeader} (decoded : decode bytes = .ok (.single h)) :
    consulted bytes = Protocol.single.headerLength := by
  rw [decode_eq] at decoded
  rw [consulted]
  split_ifs at decoded ⊢
  · rfl
  · cases decoded

theorem consulted_le_of_settled
    (settled : ∀ needed available, decode bytes ≠ .error (.truncated needed available)) :
    consulted bytes ≤ bytes.length := by
  by_contra short
  exact settled _ _ (decode_truncated_iff.mpr ⟨Nat.not_le.mp short, rfl, rfl⟩)

end Header

-- The only read is the one of the front.
theorem recorded_readHeader_of_front {m : Type → Type} [Monad m] [LawfulMonad m] {source : Source m}
    {bytes : Bytes} (sized : source.length = pure bytes.length)
    (copied : source.copyOut 0 (min bytes.length Protocol.ring.headerLength) =
      pure (.ok (bytes.slice 0 (min bytes.length Protocol.ring.headerLength))))
    (earlier : List (Nat × Nat)) :
    source.recorded.readHeader.run earlier =
      pure ((Header.decode bytes).mapError .protocolMismatch,
        earlier ++ [(0, min bytes.length Protocol.ring.headerLength)]) := by
  simp [Source.readHeader, Source.recorded, sized, copied, Header.decode_front]

/-- One read of at most as many bytes as the longer record has decides on the header as all bytes
would. Once it is decided, bytes that follow make no difference. -/
theorem readHeader_rests_on_front (bytes : Bytes) :
    (∀ source ∈ ([Source.ofBytes bytes, Source.mapped bytes] : List (Source Id)),
      source.readHeader.run = (Header.decode bytes).mapError .protocolMismatch ∧
      (source.recorded.readHeader.run []).run =
        ((Header.decode bytes).mapError .protocolMismatch, [(0, min bytes.length 120)])) ∧
    (∀ rest : Bytes,
      (∀ needed available, Header.decode bytes ≠ .error (.truncated needed available)) →
        Header.decode (bytes ++ rest) = Header.decode bytes) ∧
    ∀ h, Header.decode bytes = .ok (.single h) → ∀ other : Bytes,
      other.take 48 = bytes.take 48 → Header.decode other = .ok (.single h) := by
  refine ⟨?_, ?_, ?_⟩
  · intro source either
    obtain ⟨inside, addressable⟩ := front_inside bytes.length
    have plain := copyOut_ofBytes_of_inside (m := Id) inside
    have view : source.length = pure bytes.length ∧
        source.copyOut 0 (min bytes.length Protocol.ring.headerLength) =
          pure (.ok (bytes.slice 0 (min bytes.length Protocol.ring.headerLength))) := by
      rcases List.mem_pair.mp either with rfl | rfl
      · exact ⟨rfl, plain⟩
      · exact ⟨rfl, (copyOut_mapped inside addressable).trans plain⟩
    obtain ⟨sized, copied⟩ := view
    rw [readHeader_of_front sized copied, recorded_readHeader_of_front sized copied]
    exact ⟨rfl, rfl⟩
  · intro rest settled
    exact Header.decode_append rest (Header.consulted_le_of_settled settled)
  · intro h decoded other agree
    have looked := Header.consulted_of_single decoded
    have enough : Header.consulted bytes ≤ bytes.length :=
      Header.consulted_le_of_settled (by simp [decoded])
    rw [Header.decode_of_front enough (by rwa [looked]), decoded]

end FrameTap
