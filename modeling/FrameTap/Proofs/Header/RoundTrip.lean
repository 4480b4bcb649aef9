import FrameTap.Proofs.Header.Fields
import FrameTap.Proofs.Header.Records
import Mathlib.Tactic.SplitIfs

set_option autoImplicit false

namespace FrameTap

namespace Bytes

variable {bytes : Bytes} {offset : Nat}

theorem ofNat_toNat_of_length {width : Nat} (exact : bytes.length = width) :
    ofNat width (toNat bytes) = bytes := by
  rw [← exact, ofNat_toNat]

theorem ofUInt32_word32At (inside : offset + 4 ≤ bytes.length) :
    ofUInt32 (bytes.word32At offset) = bytes.slice offset 4 := by
  have width := length_slice inside
  have small : toNat (bytes.slice offset 4) < UInt32.size := by
    have bound := toNat_lt (bytes.slice offset 4)
    rwa [width] at bound
  rw [ofUInt32, word32At, UInt32.toNat_ofNat_of_lt' small, ofNat_toNat_of_length width]

theorem ofUInt64_word64At (inside : offset + 8 ≤ bytes.length) :
    ofUInt64 (bytes.word64At offset) = bytes.slice offset 8 := by
  have width := length_slice inside
  have small : toNat (bytes.slice offset 8) < UInt64.size := by
    have bound := toNat_lt (bytes.slice offset 8)
    rwa [width] at bound
  rw [ofUInt64, word64At, UInt64.toNat_ofNat_of_lt' small, ofNat_toNat_of_length width]

theorem slice_append_next (bytes : Bytes) {offset next length more : Nat}
    (adjacent : next = offset + length) :
    bytes.slice offset length ++ bytes.slice next more = bytes.slice offset (length + more) := by
  rw [slice, slice, slice, List.take_add, List.drop_drop, adjacent]

theorem encode_pictureAt (inside : offset + 16 ≤ bytes.length) :
    (bytes.pictureAt offset).encode = bytes.slice offset 16 := by
  simp (disch := omega) only [pictureAt, Picture.encode, ofUInt32_word32At, slice_append_next]

end Bytes

-- The fields follow one another without a gap, so the slices they are written as join.
theorem SingleHeader.encode_read {bytes : Bytes}
    (enough : Protocol.single.headerLength ≤ bytes.length) :
    (SingleHeader.read bytes).1.encode = bytes.take Protocol.single.headerLength := by
  have enough : 48 ≤ bytes.length := enough
  rw [read_fields, encode]
  simp (disch := omega) only [Bytes.encode_pictureAt, Bytes.ofUInt32_word32At,
    Bytes.ofUInt64_word64At, Bytes.slice_append_next]
  rfl

theorem RingHeader.encode_read {bytes : Bytes}
    (enough : Protocol.ring.headerLength ≤ bytes.length) :
    (RingHeader.read bytes).1.encode = bytes.take Protocol.ring.headerLength := by
  have enough : 120 ≤ bytes.length := enough
  rw [read_fields, encode]
  simp (disch := omega) only [Slots.encode, Bytes.slotAt, Bytes.encode_pictureAt,
    Bytes.ofUInt32_word32At, Bytes.ofUInt64_word64At, Bytes.slice_append_next]
  rfl

namespace Header

-- The checks of a header in the order in which they are made.
theorem decode_eq (bytes : Bytes) :
    decode bytes =
      if bytes.length < preambleLength then
        .error (.truncated preambleLength bytes.length)
      else if bytes.word32At 0 ≠ magicNumber then
        .error (.badMagic (bytes.word32At 0))
      else if bytes.word32At 4 = Protocol.single.version then
        if bytes.length < Protocol.single.headerLength then
          .error (.truncated Protocol.single.headerLength bytes.length)
        else
          .ok (.single (SingleHeader.read bytes).1)
      else if bytes.word32At 4 = Protocol.ring.version then
        if bytes.length < Protocol.ring.headerLength then
          .error (.truncated Protocol.ring.headerLength bytes.length)
        else if (RingHeader.read bytes).1.ringSize.toNat ≠ Slots.count then
          .error (.layout (.ringSize (RingHeader.read bytes).1.ringSize))
        else
          .ok (.ring (RingHeader.read bytes).1)
      else
        .error (.unsupportedVersion (bytes.word32At 4)) := by
  rw [decode_fields]
  simp only [requireLength]
  split_ifs <;> rfl

theorem genuine_and_encode_of_decode {bytes : Bytes} {header : Header}
    (decoded : decode bytes = .ok header) :
    header.Genuine ∧ header.encode = bytes.take header.encodedLength := by
  rw [decode_eq] at decoded
  split_ifs at decoded with _ magic version short ring shortRing ringSize
  -- Only the two records that are returned are left of the seven outcomes.
  · obtain rfl := Except.ok.inj decoded
    refine ⟨⟨?_, ?_⟩, SingleHeader.encode_read (Nat.not_lt.mp short)⟩
    · rw [SingleHeader.read_fields]
      exact Classical.not_not.mp magic
    · rw [SingleHeader.read_fields]
      exact version
  · obtain rfl := Except.ok.inj decoded
    have slots := Classical.not_not.mp ringSize
    refine ⟨⟨?_, ?_, slots⟩, RingHeader.encode_read (Nat.not_lt.mp shortRing)⟩
    · rw [RingHeader.read_fields]
      exact Classical.not_not.mp magic
    · rw [RingHeader.read_fields]
      exact ring

theorem version_of_decode {bytes : Bytes} {header : Header} (decoded : decode bytes = .ok header) :
    header.version = header.protocol.version := by
  have genuine := (genuine_and_encode_of_decode decoded).1
  cases header with
  | single h => exact genuine.2
  | ring h => exact genuine.2.1

/-- A genuine record is read back from its bytes whatever follows them, and a record that was read
is written as the bytes that it was read from. -/
theorem decode_encode_round_trip :
    (∀ h : SingleHeader, h.magic = magicNumber → h.version = 1 → ∀ rest : Bytes,
      decode (h.encode ++ rest) = .ok (.single h)) ∧
    (∀ h : RingHeader, h.magic = magicNumber → h.version = 2 → h.ringSize = 3 → ∀ rest : Bytes,
      decode (h.encode ++ rest) = .ok (.ring h)) ∧
    (∀ (bytes : Bytes) (header : Header), decode bytes = .ok header →
      header.encodedLength ≤ bytes.length ∧
        header.encode = bytes.take header.encodedLength) := by
  refine ⟨?_, ?_, ?_⟩
  · intro h magic version rest
    have genuine : (single h).Genuine := ⟨magic, version⟩
    exact decode_encode_append genuine rest
  · intro h magic version ringSize rest
    have genuine : (ring h).Genuine := ⟨magic, version, by rw [ringSize]; rfl⟩
    exact decode_encode_append genuine rest
  · intro bytes header decoded
    have written := (genuine_and_encode_of_decode decoded).2
    have longEnough := congrArg List.length written
    rw [length_encode, List.length_take] at longEnough
    exact ⟨by omega, written⟩

end Header

end FrameTap
