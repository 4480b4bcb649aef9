import FrameTap.Proofs.Header.Records
import FrameTap.Proofs.Header.Slots
import FrameTap.Proofs.Slices

set_option autoImplicit false

namespace FrameTap

namespace Slots

variable {α : Type}

def set (slots : Slots α) : Nat → α → Slots α
  | 0, value => { slots with first := value }
  | 1, value => { slots with second := value }
  | 2, value => { slots with third := value }
  | _, _ => slots

theorem get?_set_same {slots : Slots α} {index : Nat} (inside : index < count) (value : α) :
    (slots.set index value).get? index = some value := by
  match index, inside with
  | 0, _ | 1, _ | 2, _ => rfl

theorem get?_set_other {slots : Slots α} {index other : Nat} (apart : index ≠ other) (value : α) :
    (slots.set index value).get? other = slots.get? other := by
  match index, other with
  | 0, 0 | 1, 1 | 2, 2 => exact absurd rfl apart
  | 0, 1 | 0, 2 | 0, _ + 3 | 1, 0 | 1, 2 | 1, _ + 3 | 2, 0 | 2, 1 | 2, _ + 3 => rfl
  | _ + 3, _ => rfl

end Slots

structure Tally where
  totalFrames : UInt64
  timestampMs : UInt64
  writeIndex : UInt32
  readIndex : UInt32
  deriving DecidableEq, Repr

namespace Header

def setSlot : Header → Nat → SlotState → Header
  | .single h, 0, state =>
    .single { h with
      ready := state.ready, timestampMs := state.timestampMs, frameNumber := state.frameNumber }
  | .single h, _ + 1, _ => .single h
  | .ring h, index, state => .ring { h with slots := h.slots.set index state }

def setTally : Header → Tally → Header
  | .single h, _ => .single h
  | .ring h, tally =>
    .ring { h with
      totalFrames := tally.totalFrames
      timestampMs := tally.timestampMs
      writeIndex := tally.writeIndex
      readIndex := tally.readIndex }

structure SameShape (old new : Header) : Prop where
  protocol : new.protocol = old.protocol
  picture : new.picture = old.picture
  start : ∀ index, new.payloadStart index = old.payloadStart index
  length : new.payloadLength = old.payloadLength
  genuine : old.Genuine → new.Genuine
  layout : ∀ size, new.validateLayout size = old.validateLayout size

theorem SameShape.refl (header : Header) : SameShape header header :=
  ⟨rfl, rfl, fun _ => rfl, rfl, id, fun _ => rfl⟩

theorem SameShape.trans {first second third : Header} (early : SameShape first second)
    (late : SameShape second third) : SameShape first third where
  protocol := late.protocol.trans early.protocol
  picture := late.picture.trans early.picture
  start index := (late.start index).trans (early.start index)
  length := late.length.trans early.length
  genuine := late.genuine ∘ early.genuine
  layout size := (late.layout size).trans (early.layout size)

variable {header : Header} {index other : Nat} {state : SlotState} {tally : Tally}

theorem sameShape_setSlot : SameShape header (header.setSlot index state) := by
  cases header with
  | single h => cases index <;> exact ⟨rfl, rfl, fun _ => rfl, rfl, id, fun _ => rfl⟩
  | ring h => exact ⟨rfl, rfl, fun _ => rfl, rfl, id, fun _ => rfl⟩

theorem sameShape_setTally : SameShape header (header.setTally tally) := by
  cases header <;> exact ⟨rfl, rfl, fun _ => rfl, rfl, id, fun _ => rfl⟩

theorem slot?_setSlot_same (inside : index < header.protocol.slotCount) :
    (header.setSlot index state).slot? index = some state := by
  cases header with
  | single h =>
    obtain rfl : index = 0 := Nat.lt_one_iff.mp inside
    rfl
  | ring h => exact Slots.get?_set_same inside state

theorem slot?_setSlot_other (apart : index ≠ other) :
    (header.setSlot index state).slot? other = header.slot? other := by
  cases header with
  | single h =>
    match index, other with
    | 0, 0 => exact absurd rfl apart
    | 0, _ + 1 => rfl
    | _ + 1, _ => rfl
  | ring h => exact Slots.get?_set_other apart state

@[simp] theorem slot?_setTally : (header.setTally tally).slot? index = header.slot? index := by
  cases header with
  | single h => rfl
  | ring h => rfl

theorem totalFrames_setTally {h : RingHeader} (shown : header.setTally tally = .ring h) :
    h.totalFrames = tally.totalFrames := by
  cases header with
  | single _ => cases shown
  | ring _ =>
    cases shown
    rfl

end Header

structure Board where
  header : Header
  area : Bytes
  deriving DecidableEq, Repr

namespace Board

def bytes (board : Board) : Bytes := board.header.encode ++ board.area

def payload (board : Board) (index : Nat) : Bytes :=
  board.bytes.slice (board.header.payloadStart index) board.header.payloadLength

structure WellFormed (board : Board) : Prop where
  genuine : board.header.Genuine
  layout : board.header.validateLayout board.bytes.length = .ok ()

def setSlot (board : Board) (index : Nat) (state : SlotState) : Board :=
  { board with header := board.header.setSlot index state }

def setTally (board : Board) (tally : Tally) : Board :=
  { board with header := board.header.setTally tally }

def paint (board : Board) (index offset : Nat) (new : Bytes) : Board :=
  { board with
    area :=
      board.area.overwrite
        (board.header.payloadStart index - board.header.encodedLength + offset) new }

-- Two stages of one region: what a producer leaves fixed is the same.
structure SameShape (old new : Board) : Prop where
  header : Header.SameShape old.header new.header
  area : new.area.length = old.area.length

theorem SameShape.refl (board : Board) : SameShape board board := ⟨.refl _, rfl⟩

theorem SameShape.trans {first second third : Board} (early : SameShape first second)
    (late : SameShape second third) : SameShape first third :=
  ⟨early.header.trans late.header, late.area.trans early.area⟩

variable {board old new : Board} {index other offset : Nat} {state : SlotState} {tally : Tally}
  {written : Bytes}

theorem sameShape_setSlot : SameShape board (board.setSlot index state) :=
  ⟨Header.sameShape_setSlot, rfl⟩

theorem sameShape_setTally : SameShape board (board.setTally tally) :=
  ⟨Header.sameShape_setTally, rfl⟩

theorem sameShape_paint : SameShape board (board.paint index offset written) :=
  ⟨.refl _, Bytes.length_overwrite _ _ _⟩

theorem length_bytes : board.bytes.length = board.header.encodedLength + board.area.length := by
  rw [bytes, List.length_append, Header.length_encode]

theorem SameShape.length_bytes_eq (same : SameShape old new) :
    new.bytes.length = old.bytes.length := by
  rw [length_bytes, length_bytes, same.area, Header.encodedLength, same.header.protocol]
  rfl

theorem SameShape.wellFormed (same : SameShape old new) (good : old.WellFormed) :
    new.WellFormed := by
  refine ⟨same.header.genuine good.genuine, ?_⟩
  rw [same.header.layout, same.length_bytes_eq]
  exact good.layout

theorem SameShape.inside (same : SameShape old new)
    (inside : index < old.header.protocol.slotCount) :
    index < new.header.protocol.slotCount := by
  rw [same.header.protocol]
  exact inside

theorem decode_bytes (good : board.WellFormed) :
    Header.decode board.bytes = .ok board.header :=
  Header.decode_encode_append good.genuine board.area

theorem WellFormed.payload_eq (good : board.WellFormed)
    (inside : index < board.header.protocol.slotCount) :
    board.payload index =
      board.area.slice (board.header.payloadStart index - board.header.encodedLength)
        board.header.payloadLength := by
  have front := (Header.payload_within good.layout inside).1
  have shifted : board.header.payloadStart index =
      board.header.encode.length +
        (board.header.payloadStart index - board.header.encodedLength) := by
    rw [Header.length_encode]
    omega
  rw [payload, bytes, shifted, Bytes.slice_append_after, Header.length_encode,
    Nat.add_sub_cancel_left]

theorem WellFormed.payload_in_area (good : board.WellFormed)
    (inside : index < board.header.protocol.slotCount) :
    board.header.payloadStart index - board.header.encodedLength + board.header.payloadLength ≤
      board.area.length := by
  obtain ⟨front, back⟩ := Header.payload_within good.layout inside
  rw [length_bytes] at back
  omega

theorem WellFormed.length_payload (good : board.WellFormed)
    (inside : index < board.header.protocol.slotCount) :
    (board.payload index).length = board.header.payloadLength := by
  rw [good.payload_eq inside]
  exact Bytes.length_slice (good.payload_in_area inside)

theorem SameShape.payload_eq (same : SameShape old new) (good : old.WellFormed)
    (untouched : new.area = old.area) (inside : index < old.header.protocol.slotCount) :
    new.payload index = old.payload index := by
  rw [good.payload_eq inside, (same.wellFormed good).payload_eq (same.inside inside), untouched,
    same.header.start, same.header.length, Header.encodedLength, same.header.protocol]
  rfl

theorem payload_setSlot (good : board.WellFormed)
    (inside : other < board.header.protocol.slotCount) :
    (board.setSlot index state).payload other = board.payload other :=
  sameShape_setSlot.payload_eq good rfl inside

theorem payload_setTally (good : board.WellFormed)
    (inside : other < board.header.protocol.slotCount) :
    (board.setTally tally).payload other = board.payload other :=
  sameShape_setTally.payload_eq good rfl inside

theorem payload_paint_same (good : board.WellFormed)
    (inside : index < board.header.protocol.slotCount)
    (within : offset + written.length ≤ board.header.payloadLength) :
    (board.paint index offset written).payload index =
      (board.payload index).overwrite offset written := by
  have paintedGood : (board.paint index offset written).WellFormed :=
    sameShape_paint.wellFormed good
  rw [paintedGood.payload_eq inside, good.payload_eq inside]
  exact Bytes.slice_overwrite_within (good.payload_in_area inside) within

theorem payload_paint_other (good : board.WellFormed) (apart : index ≠ other)
    (insideIndex : index < board.header.protocol.slotCount)
    (inside : other < board.header.protocol.slotCount)
    (within : offset + written.length ≤ board.header.payloadLength) :
    (board.paint index offset written).payload other = board.payload other := by
  have paintedGood : (board.paint index offset written).WellFormed :=
    sameShape_paint.wellFormed good
  have front := (Header.payload_within good.layout inside).1
  have frontIndex := (Header.payload_within good.layout insideIndex).1
  have room := good.payload_in_area insideIndex
  rw [paintedGood.payload_eq inside, good.payload_eq inside]
  apply Bytes.slice_overwrite_apart
  · omega
  · change board.header.payloadStart other - board.header.encodedLength +
        board.header.payloadLength ≤ _ ∨ _ ≤
      board.header.payloadStart other - board.header.encodedLength
    -- The other slot lies behind the painted one or in front of it.
    rcases Nat.lt_or_gt_of_ne apart with before | after
    · have order := Header.payload_apart before inside
      omega
    · have order := Header.payload_apart after insideIndex
      omega

end Board

end FrameTap
