import FrameTap.Proofs.Header.RoundTrip
import Mathlib.Algebra.BigOperators.Ring.Finset
import Mathlib.Tactic.MkIffOfInductiveProp
import Mathlib.Tactic.Ring

set_option autoImplicit false

namespace FrameTap

namespace Bytes

def littleEndian (bytes : Bytes) (offset width : Nat) : Nat :=
  ∑ place ∈ Finset.range width, (bytes.getD (offset + place) 0).toNat * 256 ^ place

theorem toNat_eq_littleEndian (bytes : Bytes) :
    toNat bytes = bytes.littleEndian 0 bytes.length := by
  induction bytes with
  | nil => rfl
  | cons byte rest ih =>
    rw [toNat, ih, littleEndian, littleEndian, List.length_cons, Finset.sum_range_succ',
      Finset.mul_sum, Nat.add_comm]
    simp only [Nat.zero_add, List.getD_cons_succ, List.getD_cons_zero, pow_zero, mul_one, pow_succ]
    congr 1
    apply Finset.sum_congr rfl
    intro place _
    ring

variable {bytes : Bytes} {offset : Nat}

theorem toNat_slice {width : Nat} (inside : offset + width ≤ bytes.length) :
    toNat (bytes.slice offset width) = bytes.littleEndian offset width := by
  rw [toNat_eq_littleEndian, length_slice inside]
  apply Finset.sum_congr rfl
  intro place within
  simp [List.getD_eq_getElem?_getD, getElem?_slice, Finset.mem_range.mp within]

theorem toNat_word32At (inside : offset + 4 ≤ bytes.length) :
    (bytes.word32At offset).toNat = bytes.littleEndian offset 4 := by
  have small := toNat_lt (bytes.slice offset 4)
  rw [length_slice inside] at small
  rw [word32At, UInt32.toNat_ofNat_of_lt' small, toNat_slice inside]

theorem toNat_word64At (inside : offset + 8 ≤ bytes.length) :
    (bytes.word64At offset).toNat = bytes.littleEndian offset 8 := by
  have small := toNat_lt (bytes.slice offset 8)
  rw [length_slice inside] at small
  rw [word64At, UInt64.toNat_ofNat_of_lt' small, toNat_slice inside]

end Bytes

@[mk_iff]
structure SingleHeader.WrittenIn (header : SingleHeader) (bytes : Bytes) : Prop where
  magic : header.magic.toNat = bytes.littleEndian 0 4
  version : header.version.toNat = bytes.littleEndian 4 4
  width : header.picture.width.toNat = bytes.littleEndian 8 4
  height : header.picture.height.toNat = bytes.littleEndian 12 4
  stride : header.picture.stride.toNat = bytes.littleEndian 16 4
  format : header.picture.format.toNat = bytes.littleEndian 20 4
  timestampMs : header.timestampMs.toNat = bytes.littleEndian 24 8
  frameNumber : header.frameNumber.toNat = bytes.littleEndian 32 8
  dataSize : header.dataSize.toNat = bytes.littleEndian 40 4
  ready : header.ready.toNat = bytes.littleEndian 44 4

@[mk_iff]
structure SlotState.WrittenIn (state : SlotState) (bytes : Bytes) (index : Nat) : Prop where
  ready : state.ready.toNat = bytes.littleEndian (60 + 4 * index) 4
  timestampMs : state.timestampMs.toNat = bytes.littleEndian (72 + 8 * index) 8
  frameNumber : state.frameNumber.toNat = bytes.littleEndian (96 + 8 * index) 8

@[mk_iff]
structure RingHeader.WrittenIn (header : RingHeader) (bytes : Bytes) : Prop where
  magic : header.magic.toNat = bytes.littleEndian 0 4
  version : header.version.toNat = bytes.littleEndian 4 4
  width : header.picture.width.toNat = bytes.littleEndian 8 4
  height : header.picture.height.toNat = bytes.littleEndian 12 4
  stride : header.picture.stride.toNat = bytes.littleEndian 16 4
  format : header.picture.format.toNat = bytes.littleEndian 20 4
  frameDataSize : header.frameDataSize.toNat = bytes.littleEndian 24 4
  ringSize : header.ringSize.toNat = bytes.littleEndian 28 4
  frameOffset : header.frameOffset.toNat = bytes.littleEndian 32 4
  writeIndex : header.writeIndex.toNat = bytes.littleEndian 36 4
  readIndex : header.readIndex.toNat = bytes.littleEndian 40 4
  totalFrames : header.totalFrames.toNat = bytes.littleEndian 44 8
  timestampMs : header.timestampMs.toNat = bytes.littleEndian 52 8
  first : header.slots.first.WrittenIn bytes 0
  second : header.slots.second.WrittenIn bytes 1
  third : header.slots.third.WrittenIn bytes 2

section Records

variable {bytes : Bytes}

theorem SingleHeader.writtenIn_iff_read {header : SingleHeader}
    (enough : Protocol.single.headerLength ≤ bytes.length) :
    header.WrittenIn bytes ↔ header = (SingleHeader.read bytes).1 := by
  have enough : 48 ≤ bytes.length := enough
  obtain ⟨_, _, ⟨_, _, _, _⟩, _, _, _, _⟩ := header
  simp (disch := omega) only [read_fields, Bytes.pictureAt, mk.injEq, Picture.mk.injEq,
    ← UInt32.toNat_inj, ← UInt64.toNat_inj, Bytes.toNat_word32At, Bytes.toNat_word64At,
    writtenIn_iff, and_assoc]

theorem SlotState.writtenIn_iff_slotAt {state : SlotState} {index : Nat}
    (enough : 96 + 8 * index + 8 ≤ bytes.length) :
    state.WrittenIn bytes index ↔ state = bytes.slotAt index := by
  obtain ⟨_, _, _⟩ := state
  simp (disch := omega) only [Bytes.slotAt, mk.injEq, ← UInt32.toNat_inj, ← UInt64.toNat_inj,
    Bytes.toNat_word32At, Bytes.toNat_word64At, writtenIn_iff]

theorem RingHeader.writtenIn_iff_read {header : RingHeader}
    (enough : Protocol.ring.headerLength ≤ bytes.length) :
    header.WrittenIn bytes ↔ header = (RingHeader.read bytes).1 := by
  have enough : 120 ≤ bytes.length := enough
  obtain ⟨_, _, ⟨_, _, _, _⟩, _, _, _, _, _, _, _, _, _, _⟩ := header
  simp (disch := omega) only [read_fields, Bytes.pictureAt, mk.injEq, Picture.mk.injEq,
    Slots.mk.injEq, ← SlotState.writtenIn_iff_slotAt, ← UInt32.toNat_inj, ← UInt64.toNat_inj,
    Bytes.toNat_word32At, Bytes.toNat_word64At, writtenIn_iff, and_assoc]

end Records

namespace Header

inductive Documented (bytes : Bytes) : Except Mismatch Header → Prop
  | noPreamble (short : bytes.length < 8) :
      Documented bytes (.error (.truncated 8 bytes.length))
  | foreign {found : UInt32} (long : 8 ≤ bytes.length)
      (magic : found.toNat = bytes.littleEndian 0 4) (other : found ≠ 0x4B414843) :
      Documented bytes (.error (.badMagic found))
  | unknown {found : UInt32} (long : 8 ≤ bytes.length)
      (magic : bytes.littleEndian 0 4 = 0x4B414843)
      (version : found.toNat = bytes.littleEndian 4 4) (notSingle : found ≠ 1)
      (notRing : found ≠ 2) :
      Documented bytes (.error (.unsupportedVersion found))
  | shortSingle (long : 8 ≤ bytes.length) (magic : bytes.littleEndian 0 4 = 0x4B414843)
      (version : bytes.littleEndian 4 4 = 1) (short : bytes.length < 48) :
      Documented bytes (.error (.truncated 48 bytes.length))
  | shortRing (long : 8 ≤ bytes.length) (magic : bytes.littleEndian 0 4 = 0x4B414843)
      (version : bytes.littleEndian 4 4 = 2) (short : bytes.length < 120) :
      Documented bytes (.error (.truncated 120 bytes.length))
  | otherRing {found : UInt32} (long : 120 ≤ bytes.length)
      (magic : bytes.littleEndian 0 4 = 0x4B414843) (version : bytes.littleEndian 4 4 = 2)
      (ringSize : found.toNat = bytes.littleEndian 28 4) (other : found ≠ 3) :
      Documented bytes (.error (.layout (.ringSize found)))
  | single {header : SingleHeader} (long : 48 ≤ bytes.length)
      (magic : bytes.littleEndian 0 4 = 0x4B414843) (version : bytes.littleEndian 4 4 = 1)
      (written : header.WrittenIn bytes) :
      Documented bytes (.ok (.single header))
  | ring {header : RingHeader} (long : 120 ≤ bytes.length)
      (magic : bytes.littleEndian 0 4 = 0x4B414843) (version : bytes.littleEndian 4 4 = 2)
      (ringSize : bytes.littleEndian 28 4 = 3) (written : header.WrittenIn bytes) :
      Documented bytes (.ok (.ring header))

section Decoding

variable {bytes : Bytes} {answer : Except Mismatch Header}

theorem word32At_eq_iff {offset : Nat} {word : UInt32} (inside : offset + 4 ≤ bytes.length) :
    bytes.word32At offset = word ↔ bytes.littleEndian offset 4 = word.toNat := by
  rw [← UInt32.toNat_inj, Bytes.toNat_word32At inside]

theorem exists_documented (bytes : Bytes) : ∃ answer, Documented bytes answer := by
  by_cases short : bytes.length < 8
  · exact ⟨_, .noPreamble short⟩
  have long : 8 ≤ bytes.length := Nat.not_lt.mp short
  by_cases other : bytes.word32At 0 ≠ 0x4B414843
  · exact ⟨_, .foreign long (Bytes.toNat_word32At (by omega)) other⟩
  have magic := (word32At_eq_iff (by omega)).mp (Classical.not_not.mp other)
  by_cases single : bytes.word32At 4 = 1
  · have version := (word32At_eq_iff long).mp single
    by_cases enough : 48 ≤ bytes.length
    · exact ⟨_, .single enough magic version ((SingleHeader.writtenIn_iff_read enough).mpr rfl)⟩
    · exact ⟨_, .shortSingle long magic version (Nat.not_le.mp enough)⟩
  by_cases ring : bytes.word32At 4 = 2
  · have version := (word32At_eq_iff long).mp ring
    by_cases short : bytes.length < 120
    · exact ⟨_, .shortRing long magic version short⟩
    have enough : 120 ≤ bytes.length := Nat.not_lt.mp short
    by_cases three : bytes.word32At 28 = 3
    · have ringSize := (word32At_eq_iff (by omega)).mp three
      exact ⟨_, .ring enough magic version ringSize
        ((RingHeader.writtenIn_iff_read enough).mpr rfl)⟩
    · exact ⟨_, .otherRing enough magic version (Bytes.toNat_word32At (by omega)) three⟩
  · exact ⟨_, .unknown long magic (Bytes.toNat_word32At long) single ring⟩

section Versions

variable (long : 8 ≤ bytes.length) (magic : bytes.littleEndian 0 4 = 0x4B414843)

include long magic

theorem decode_eq_of_single (version : bytes.littleEndian 4 4 = 1) :
    decode bytes =
      if bytes.length < 48 then .error (.truncated 48 bytes.length)
      else .ok (.single (SingleHeader.read bytes).1) := by
  have preamble : ¬bytes.length < preambleLength := Nat.not_lt.mpr long
  have read : bytes.word32At 0 = magicNumber := (word32At_eq_iff (by omega)).mpr magic
  have single : bytes.word32At 4 = Protocol.single.version := (word32At_eq_iff long).mpr version
  rw [decode_eq, if_neg preamble, if_neg (not_not_intro read), if_pos single]
  rfl

theorem decode_eq_of_ring (version : bytes.littleEndian 4 4 = 2) :
    decode bytes =
      if bytes.length < 120 then .error (.truncated 120 bytes.length)
      else if (RingHeader.read bytes).1.ringSize.toNat ≠ 3 then
        .error (.layout (.ringSize (RingHeader.read bytes).1.ringSize))
      else .ok (.ring (RingHeader.read bytes).1) := by
  have preamble : ¬bytes.length < preambleLength := Nat.not_lt.mpr long
  have read : bytes.word32At 0 = magicNumber := (word32At_eq_iff (by omega)).mpr magic
  have ring : bytes.word32At 4 = Protocol.ring.version := (word32At_eq_iff long).mpr version
  have notSingle : bytes.word32At 4 ≠ Protocol.single.version := by
    rw [ring]
    decide
  rw [decode_eq, if_neg preamble, if_neg (not_not_intro read), if_neg notSingle, if_pos ring]
  rfl

end Versions

theorem ringSize_read (long : 120 ≤ bytes.length) :
    (RingHeader.read bytes).1.ringSize.toNat = bytes.littleEndian 28 4 := by
  rw [RingHeader.read_fields]
  exact Bytes.toNat_word32At (by omega)

theorem decode_of_documented (documented : Documented bytes answer) : decode bytes = answer := by
  cases documented with
  | noPreamble short => simp [decode_eq, preambleLength, short]
  | foreign long magic other =>
    have read := (word32At_eq_iff (by omega)).mpr magic.symm
    simp [decode_eq, preambleLength, magicNumber, Nat.not_lt.mpr long, read, other]
  | unknown long magic version notSingle notRing =>
    have read : bytes.word32At 0 = 0x4B414843 := (word32At_eq_iff (by omega)).mpr magic
    have readVersion := (word32At_eq_iff long).mpr version.symm
    simp [decode_eq, preambleLength, magicNumber, Protocol.version, Nat.not_lt.mpr long, read,
      readVersion, notSingle, notRing]
  | shortSingle long magic version short =>
    rw [decode_eq_of_single long magic version, if_pos short]
  | shortRing long magic version short =>
    rw [decode_eq_of_ring long magic version, if_pos short]
  | otherRing long magic version ringSize other =>
    obtain rfl := UInt32.toNat_inj.mp (ringSize.trans (ringSize_read long).symm)
    have notThree : (RingHeader.read bytes).1.ringSize.toNat ≠ 3 := UInt32.toNat_inj.not.mpr other
    rw [decode_eq_of_ring (by omega) magic version, if_neg (Nat.not_lt.mpr long), if_pos notThree]
  | single long magic version written =>
    obtain rfl := (SingleHeader.writtenIn_iff_read long).mp written
    rw [decode_eq_of_single (by omega) magic version, if_neg (Nat.not_lt.mpr long)]
  | ring long magic version ringSize written =>
    obtain rfl := (RingHeader.writtenIn_iff_read long).mp written
    have three : (RingHeader.read bytes).1.ringSize.toNat = 3 := (ringSize_read long).trans ringSize
    rw [decode_eq_of_ring (by omega) magic version, if_neg (Nat.not_lt.mpr long),
      if_neg (not_not_intro three)]

theorem message_ringSize (found : UInt32) :
    (LayoutFault.ringSize found).message = s!"ring buffer size {found.toNat} (expected 3)" := by
  have ending : toString " (expected " ++ toString Slots.count ++ toString ")" =
      " (expected 3)" := by
    decide
  change toString "ring buffer size " ++ toString found.toNat ++ toString " (expected " ++
    toString Slots.count ++ toString ")" = _
  simp only [String.append_assoc, ← ending]
  rfl

/-- A byte string is decoded as the format says, and a ring size that it does not allow is named. -/
theorem decode_eq_iff_documented (bytes : Bytes) :
    (∀ answer, decode bytes = answer ↔ Documented bytes answer) ∧
      ∀ fault, decode bytes = .error (.layout fault) →
        fault.message = s!"ring buffer size {bytes.littleEndian 28 4} (expected 3)" := by
  refine ⟨fun answer => ⟨?_, decode_of_documented⟩, ?_⟩
  · rintro rfl
    obtain ⟨answer, documented⟩ := exists_documented bytes
    rwa [decode_of_documented documented]
  · intro fault refused
    obtain ⟨answer, documented⟩ := exists_documented bytes
    obtain rfl := (decode_of_documented documented).symm.trans refused
    cases documented with
    | otherRing long magic version ringSize other => rw [← ringSize, message_ringSize]

end Decoding

end Header

end FrameTap
