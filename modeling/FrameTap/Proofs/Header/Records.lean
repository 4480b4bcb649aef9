import FrameTap.Header.Codec

set_option autoImplicit false

namespace FrameTap

theorem StateM.bind_of_eq {σ α β : Type} {action : StateM σ α} {before after : σ} {value : α}
    (ran : action before = (value, after)) (next : α → StateM σ β) :
    (action >>= next) before = next value after := by
  change (match action before with | (value, after) => next value after) = _
  rw [ran]

theorem Bytes.toNat_ofUInt32 (word : UInt32) : Bytes.toNat (Bytes.ofUInt32 word) = word.toNat := by
  have small : word.toNat < 4294967296 := word.toNat_lt
  rw [Bytes.ofUInt32, Bytes.toNat_ofNat]
  exact Nat.mod_eq_of_lt small

theorem Bytes.toNat_ofUInt64 (word : UInt64) : Bytes.toNat (Bytes.ofUInt64 word) = word.toNat := by
  have small : word.toNat < 18446744073709551616 := word.toNat_lt
  rw [Bytes.ofUInt64, Bytes.toNat_ofNat]
  exact Nat.mod_eq_of_lt small

@[simp] theorem Bytes.length_ofUInt32 (word : UInt32) : (Bytes.ofUInt32 word).length = 4 :=
  Bytes.length_ofNat 4 word.toNat

@[simp] theorem Bytes.length_ofUInt64 (word : UInt64) : (Bytes.ofUInt64 word).length = 8 :=
  Bytes.length_ofNat 8 word.toNat

namespace FieldReader

@[simp] theorem word32_append (word : UInt32) (rest : Bytes) :
    word32 (Bytes.ofUInt32 word ++ rest) = (word, rest) := by
  have front : (Bytes.ofUInt32 word ++ rest).take 4 = Bytes.ofUInt32 word :=
    List.take_left' (Bytes.length_ofUInt32 word)
  have back : (Bytes.ofUInt32 word ++ rest).drop 4 = rest :=
    List.drop_left' (Bytes.length_ofUInt32 word)
  rw [word32, front, back, Bytes.toNat_ofUInt32, UInt32.ofNat_toNat]

@[simp] theorem word64_append (word : UInt64) (rest : Bytes) :
    word64 (Bytes.ofUInt64 word ++ rest) = (word, rest) := by
  have front : (Bytes.ofUInt64 word ++ rest).take 8 = Bytes.ofUInt64 word :=
    List.take_left' (Bytes.length_ofUInt64 word)
  have back : (Bytes.ofUInt64 word ++ rest).drop 8 = rest :=
    List.drop_left' (Bytes.length_ofUInt64 word)
  rw [word64, front, back, Bytes.toNat_ofUInt64, UInt64.ofNat_toNat]

@[simp] theorem picture_append (value : Picture) (rest : Bytes) :
    picture (value.encode ++ rest) = (value, rest) := by
  simp only [picture, Picture.encode, List.append_assoc]
  iterate 4 rw [StateM.bind_of_eq (word32_append _ _)]
  rfl

theorem perSlot_append {α β : Type} {item : FieldReader α} (field : β → Bytes) (view : β → α)
    (readBack : ∀ value rest, item (field value ++ rest) = (view value, rest))
    (slots : Slots β) (rest : Bytes) :
    perSlot item (slots.encode field ++ rest) =
      ({ first := view slots.first, second := view slots.second, third := view slots.third },
        rest) := by
  simp only [perSlot, Slots.encode, List.append_assoc]
  iterate 3 rw [StateM.bind_of_eq (readBack _ _)]
  rfl

end FieldReader

theorem SingleHeader.read_append (header : SingleHeader) (rest : Bytes) :
    SingleHeader.read (header.encode ++ rest) = (header, rest) := by
  simp only [SingleHeader.read, SingleHeader.encode, List.append_assoc]
  iterate 2 rw [StateM.bind_of_eq (FieldReader.word32_append _ _)]
  rw [StateM.bind_of_eq (FieldReader.picture_append _ _)]
  iterate 2 rw [StateM.bind_of_eq (FieldReader.word64_append _ _)]
  iterate 2 rw [StateM.bind_of_eq (FieldReader.word32_append _ _)]
  rfl

theorem RingHeader.read_append (header : RingHeader) (rest : Bytes) :
    RingHeader.read (header.encode ++ rest) = (header, rest) := by
  have ready := FieldReader.perSlot_append (fun slot => Bytes.ofUInt32 slot.ready)
    SlotState.ready (fun slot => FieldReader.word32_append slot.ready)
  have stamps := FieldReader.perSlot_append (fun slot => Bytes.ofUInt64 slot.timestampMs)
    SlotState.timestampMs (fun slot => FieldReader.word64_append slot.timestampMs)
  have numbers := FieldReader.perSlot_append (fun slot => Bytes.ofUInt64 slot.frameNumber)
    SlotState.frameNumber (fun slot => FieldReader.word64_append slot.frameNumber)
  simp only [RingHeader.read, RingHeader.encode, List.append_assoc]
  iterate 2 rw [StateM.bind_of_eq (FieldReader.word32_append _ _)]
  rw [StateM.bind_of_eq (FieldReader.picture_append _ _)]
  iterate 5 rw [StateM.bind_of_eq (FieldReader.word32_append _ _)]
  iterate 2 rw [StateM.bind_of_eq (FieldReader.word64_append _ _)]
  rw [StateM.bind_of_eq (ready _ _), StateM.bind_of_eq (stamps _ _),
    StateM.bind_of_eq (numbers _ _)]
  rfl

namespace Header

def Genuine : Header → Prop
  | .single h => h.magic = magicNumber ∧ h.version = Protocol.single.version
  | .ring h =>
    h.magic = magicNumber ∧ h.version = Protocol.ring.version ∧ h.ringSize.toNat = Slots.count

theorem requireLength_of_le {needed : Nat} {bytes : Bytes} (enough : needed ≤ bytes.length) :
    requireLength needed bytes = .ok () := by
  rw [requireLength, if_neg (Nat.not_lt.mpr enough)]

theorem decode_single {bytes tail : Bytes}
    (preamble : bytes = Bytes.ofUInt32 magicNumber ++
      (Bytes.ofUInt32 Protocol.single.version ++ tail))
    (enough : Protocol.single.headerLength ≤ bytes.length) :
    decode bytes = .ok (.single (SingleHeader.read bytes).1) := by
  have long : preambleLength ≤ bytes.length := Nat.le_trans (by decide) enough
  have magic : FieldReader.word32 bytes =
      (magicNumber, Bytes.ofUInt32 Protocol.single.version ++ tail) := by
    rw [preamble, FieldReader.word32_append]
  simp only [decode, requireLength_of_le long, magic, FieldReader.word32_append,
    requireLength_of_le enough]
  rfl

theorem decode_ring {bytes tail : Bytes}
    (preamble : bytes = Bytes.ofUInt32 magicNumber ++
      (Bytes.ofUInt32 Protocol.ring.version ++ tail))
    (enough : Protocol.ring.headerLength ≤ bytes.length)
    (ringSize : (RingHeader.read bytes).1.ringSize.toNat = Slots.count) :
    decode bytes = .ok (.ring (RingHeader.read bytes).1) := by
  have long : preambleLength ≤ bytes.length := Nat.le_trans (by decide) enough
  have magic : FieldReader.word32 bytes =
      (magicNumber, Bytes.ofUInt32 Protocol.ring.version ++ tail) := by
    rw [preamble, FieldReader.word32_append]
  simp only [decode, requireLength_of_le long, magic, FieldReader.word32_append,
    requireLength_of_le enough, ringSize]
  rfl

theorem decode_encode_append {header : Header} (genuine : header.Genuine) (rest : Bytes) :
    decode (header.encode ++ rest) = .ok header := by
  have recordLength := header.length_encode
  cases header with
  | single h =>
    obtain ⟨magic, version⟩ := genuine
    have read : SingleHeader.read (h.encode ++ rest) = (h, rest) := h.read_append rest
    rw [encode, decode_single, read]
    · rw [SingleHeader.encode, magic, version]
      simp only [List.append_assoc]
      rfl
    · rw [List.length_append]
      exact Nat.le_add_right_of_le (Nat.le_of_eq recordLength.symm)
  | ring h =>
    obtain ⟨magic, version, ringSize⟩ := genuine
    have read : RingHeader.read (h.encode ++ rest) = (h, rest) := h.read_append rest
    rw [encode, decode_ring, read]
    · rw [RingHeader.encode, magic, version]
      simp only [List.append_assoc]
      rfl
    · rw [List.length_append]
      exact Nat.le_add_right_of_le (Nat.le_of_eq recordLength.symm)
    · rw [read]
      exact ringSize

end Header

end FrameTap
