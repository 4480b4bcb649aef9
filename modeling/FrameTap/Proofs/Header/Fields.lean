import FrameTap.Header.Codec
import FrameTap.Proofs.Slices

set_option autoImplicit false

namespace FrameTap

def Bytes.word32At (bytes : Bytes) (offset : Nat) : UInt32 :=
  UInt32.ofNat (Bytes.toNat (bytes.slice offset 4))

def Bytes.word64At (bytes : Bytes) (offset : Nat) : UInt64 :=
  UInt64.ofNat (Bytes.toNat (bytes.slice offset 8))

def Bytes.pictureAt (bytes : Bytes) (offset : Nat) : Picture where
  width := bytes.word32At offset
  height := bytes.word32At (offset + 4)
  stride := bytes.word32At (offset + 8)
  format := bytes.word32At (offset + 12)

-- The three parallel arrays, read across.
def Bytes.slotAt (bytes : Bytes) (index : Nat) : SlotState where
  ready := bytes.word32At (60 + 4 * index)
  timestampMs := bytes.word64At (72 + 8 * index)
  frameNumber := bytes.word64At (96 + 8 * index)

theorem FieldReader.pure_apply {α : Type} (value : α) (bytes : Bytes) :
    (pure value : FieldReader α) bytes = (value, bytes) :=
  rfl

theorem SingleHeader.read_fields (bytes : Bytes) :
    (SingleHeader.read bytes).1 =
      { magic := bytes.word32At 0
        version := bytes.word32At 4
        picture := bytes.pictureAt 8
        timestampMs := bytes.word64At 24
        frameNumber := bytes.word64At 32
        dataSize := bytes.word32At 40
        ready := bytes.word32At 44 } := by
  simp only [SingleHeader.read, FieldReader.picture, FieldReader.word32, FieldReader.word64,
    bind, StateT.bind, FieldReader.pure_apply, List.drop_drop]
  rfl

theorem RingHeader.read_fields (bytes : Bytes) :
    (RingHeader.read bytes).1 =
      { magic := bytes.word32At 0
        version := bytes.word32At 4
        picture := bytes.pictureAt 8
        frameDataSize := bytes.word32At 24
        ringSize := bytes.word32At 28
        frameOffset := bytes.word32At 32
        writeIndex := bytes.word32At 36
        readIndex := bytes.word32At 40
        totalFrames := bytes.word64At 44
        timestampMs := bytes.word64At 52
        slots :=
          { first := bytes.slotAt 0
            second := bytes.slotAt 1
            third := bytes.slotAt 2 } } := by
  simp only [RingHeader.read, FieldReader.picture, FieldReader.perSlot, FieldReader.word32,
    FieldReader.word64, bind, StateT.bind, FieldReader.pure_apply, List.drop_drop]
  rfl

theorem Header.decode_fields (bytes : Bytes) :
    decode bytes = (do
      requireLength preambleLength bytes
      if bytes.word32At 0 ≠ magicNumber then
        throw (.badMagic (bytes.word32At 0))
      if bytes.word32At 4 = Protocol.single.version then
        requireLength Protocol.single.headerLength bytes
        return .single (SingleHeader.read bytes).1
      else if bytes.word32At 4 = Protocol.ring.version then
        requireLength Protocol.ring.headerLength bytes
        if (RingHeader.read bytes).1.ringSize.toNat ≠ Slots.count then
          throw (.layout (.ringSize (RingHeader.read bytes).1.ringSize))
        return .ring (RingHeader.read bytes).1
      else
        throw (.unsupportedVersion (bytes.word32At 4))) :=
  rfl

section Front

variable {bytes : Bytes} {front : Nat}

theorem Bytes.word32At_take {offset : Nat} (inside : offset + 4 ≤ front) :
    word32At (bytes.take front) offset = bytes.word32At offset := by
  rw [word32At, slice_take inside, word32At]

theorem Bytes.word64At_take {offset : Nat} (inside : offset + 8 ≤ front) :
    word64At (bytes.take front) offset = bytes.word64At offset := by
  rw [word64At, slice_take inside, word64At]

theorem Bytes.pictureAt_take {offset : Nat} (inside : offset + 16 ≤ front) :
    pictureAt (bytes.take front) offset = bytes.pictureAt offset := by
  simp (disch := omega) only [pictureAt, word32At_take]

theorem Bytes.slotAt_take {index : Nat} (inside : 96 + 8 * index + 8 ≤ front) :
    slotAt (bytes.take front) index = bytes.slotAt index := by
  simp (disch := omega) only [slotAt, word32At_take, word64At_take]

theorem SingleHeader.read_take (enough : Protocol.single.headerLength ≤ front) :
    (SingleHeader.read (bytes.take front)).1 = (SingleHeader.read bytes).1 := by
  have enough : 48 ≤ front := enough
  simp (disch := omega) only [SingleHeader.read_fields, Bytes.word32At_take, Bytes.word64At_take,
    Bytes.pictureAt_take]

theorem RingHeader.read_take (enough : Protocol.ring.headerLength ≤ front) :
    (RingHeader.read (bytes.take front)).1 = (RingHeader.read bytes).1 := by
  have enough : 120 ≤ front := enough
  simp (disch := omega) only [RingHeader.read_fields, Bytes.word32At_take, Bytes.word64At_take,
    Bytes.pictureAt_take, Bytes.slotAt_take]

theorem Header.requireLength_take {needed : Nat} (enough : needed ≤ front) :
    requireLength needed (bytes.take front) = requireLength needed bytes := by
  by_cases short : bytes.length ≤ front
  · rw [List.take_of_length_le short]
  · have frontLength : (bytes.take front).length = front := by
      rw [List.length_take]
      omega
    rw [requireLength, requireLength, if_neg (by omega), if_neg (by omega)]

theorem Header.decode_take (enough : Protocol.ring.headerLength ≤ front) :
    decode (bytes.take front) = decode bytes := by
  have enough120 : 120 ≤ front := enough
  have preamble : preambleLength ≤ front := Nat.le_trans (by decide) enough
  have single : Protocol.single.headerLength ≤ front := Nat.le_trans (by decide) enough
  simp (disch := omega) only [decode_fields, requireLength_take preamble,
    requireLength_take single, requireLength_take enough, Bytes.word32At_take,
    SingleHeader.read_take single, RingHeader.read_take enough]

end Front

theorem Header.decode_front (bytes : Bytes) :
    decode (bytes.slice 0 (min bytes.length Protocol.ring.headerLength)) = decode bytes := by
  rw [Bytes.slice, List.drop_zero, Nat.min_comm, ← List.take_eq_take_min]
  exact decode_take (Nat.le_refl _)

end FrameTap
