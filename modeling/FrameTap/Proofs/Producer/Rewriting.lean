import FrameTap.Proofs.Producer.Timeline
import Mathlib.Logic.Relation

/-!
A producer that rewrites a slot step by step: it lowers the ready flag, writes into the payload
piece by piece, gives the slot its new number, and raises the flag again. A copy is checked by its
number only, so it may hold what was written since the flag was lowered.
-/

set_option autoImplicit false

namespace FrameTap

inductive Phase
  | settled
  | rewriting (patch : Patch)
  | renumbered
  deriving DecidableEq, Repr

-- The writes to a payload that its number does not tell of.
def Phase.patch : Phase → Patch
  | .rewriting patch => patch
  | .settled | .renumbered => []

def Phase.isRewriting : Phase → Bool
  | .rewriting _ => true
  | .settled | .renumbered => false

theorem Phase.patch_of_not_rewriting {phase : Phase} (still : ¬phase.isRewriting) :
    phase.patch = [] := by
  cases phase with
  | rewriting patch => exact absurd rfl still
  | settled | renumbered => rfl

structure Studio where
  board : Board
  phase : Nat → Phase
  written : Nat → UInt64 → Bytes

namespace Studio

def opened (board : Board) : Studio where
  board := board
  phase := fun _ => .settled
  written := fun index _ => board.payload index

def mark (studio : Studio) (index : Nat) (state : SlotState) (phase : Phase) : Studio :=
  { studio with
    board := studio.board.setSlot index state
    phase := Function.update studio.phase index phase }

def record (studio : Studio) (index : Nat) (number : UInt64) (payload : Bytes) : Studio :=
  { studio with
    written := Function.update studio.written index
      (Function.update (studio.written index) number payload) }

def paint (studio : Studio) (index offset : Nat) (bytes : Bytes) (phase : Phase) : Studio :=
  { studio with
    board := studio.board.paint index offset bytes
    phase := Function.update studio.phase index phase }

inductive Step : Studio → Studio → Prop
  | lower {studio : Studio} {index : Nat} {state : SlotState}
      (present : studio.board.header.slot? index = some state)
      (settled : studio.phase index = .settled) :
      Step studio (studio.mark index { state with ready := 0 } (.rewriting []))
  | paint {studio : Studio} {index offset : Nat} {patch : Patch} {bytes : Bytes}
      (inside : index < studio.board.header.protocol.slotCount)
      (rewriting : studio.phase index = .rewriting patch)
      (within : offset + bytes.length ≤ studio.board.header.payloadLength) :
      Step studio (studio.paint index offset bytes (.rewriting (patch ++ [(offset, bytes)])))
  | renumber {studio : Studio} {index : Nat} {patch : Patch} {state : SlotState}
      {timestampMs number : UInt64}
      (present : studio.board.header.slot? index = some state)
      (rewriting : studio.phase index = .rewriting patch)
      (larger : state.frameNumber < number) :
      Step studio
        ((studio.mark index { state with timestampMs, frameNumber := number } .renumbered).record
          index number (studio.board.payload index))
  | raise {studio : Studio} {index : Nat} {state : SlotState} {ready : UInt32}
      (present : studio.board.header.slot? index = some state)
      (renumbered : studio.phase index = .renumbered)
      (raised : ready ≠ 0) :
      Step studio (studio.mark index { state with ready } .settled)
  | tally {studio : Studio} (tally : Tally) :
      Step studio { studio with board := studio.board.setTally tally }

abbrev Steps : Studio → Studio → Prop := Relation.ReflTransGen Step

end Studio

-- What a studio holds of one slot.
structure Cell where
  state : SlotState
  payload : Bytes
  phase : Phase
  written : UInt64 → Bytes

namespace Cell

-- What one step of the producer does to one slot.
inductive Step : Cell → Cell → Prop
  | idle {cell : Cell} : Step cell cell
  | lower {cell : Cell} (settled : cell.phase = .settled) :
      Step cell
        { cell with state := { cell.state with ready := 0 }, phase := .rewriting [] }
  | paint {cell : Cell} {patch : Patch} {offset : Nat} {bytes : Bytes}
      (rewriting : cell.phase = .rewriting patch) :
      Step cell
        { cell with
          payload := cell.payload.overwrite offset bytes
          phase := .rewriting (patch ++ [(offset, bytes)]) }
  | renumber {cell : Cell} {patch : Patch} {timestampMs number : UInt64}
      (rewriting : cell.phase = .rewriting patch) (larger : cell.state.frameNumber < number) :
      Step cell
        { cell with
          state := { cell.state with timestampMs, frameNumber := number }
          phase := .renumbered
          written := Function.update cell.written number cell.payload }
  | raise {cell : Cell} {ready : UInt32} (renumbered : cell.phase = .renumbered) :
      Step cell { cell with state := { cell.state with ready }, phase := .settled }

/-- The payload is the one written under the slot's number, up to the writes made since the flag
was lowered. -/
structure Coherent (cell : Cell) : Prop where
  content : cell.payload = cell.phase.patch.apply (cell.written cell.state.frameNumber)
  guarded : cell.state.ready ≠ 0 → cell.phase = .settled

/-- A slot's number never falls, what was written under earlier numbers stays known, and a
rewriting does not end without a new number. -/
structure Onward (old new : Cell) : Prop where
  number : old.state.frameNumber ≤ new.state.frameNumber
  written : ∀ number ≤ old.state.frameNumber, new.written number = old.written number
  intact : new.state.frameNumber = old.state.frameNumber → ¬new.phase.isRewriting →
    ¬old.phase.isRewriting

variable {old new cell : Cell}

theorem Coherent.step (coherent : old.Coherent) (step : Step old new) : new.Coherent := by
  obtain ⟨content, guarded⟩ := coherent
  cases step with
  | idle => exact ⟨content, guarded⟩
  | lower settled =>
    -- Nothing is written over yet, but the flag is down.
    refine ⟨?_, fun raised => absurd rfl raised⟩
    rw [settled] at content
    exact content
  | @paint patch offset bytes rewriting =>
    rw [rewriting] at content guarded
    refine ⟨?_, fun raised => Phase.noConfusion (guarded raised)⟩
    change old.payload.overwrite offset bytes = Patch.apply (patch ++ [(offset, bytes)]) _
    rw [Patch.apply, List.foldl_append, content]
    rfl
  | @renumber patch timestampMs number rewriting larger =>
    -- What stands in the slot is from now on what was written under its number.
    rw [rewriting] at guarded
    refine ⟨?_, fun raised => Phase.noConfusion (guarded raised)⟩
    exact (Function.update_self number old.payload old.written).symm
  | raise renumbered =>
    rw [renumbered] at content
    exact ⟨content, fun _ => rfl⟩

theorem Onward.refl (cell : Cell) : Onward cell cell :=
  ⟨UInt64.le_refl _, fun _ _ => rfl, fun _ => id⟩

theorem Onward.trans {first second third : Cell} (early : Onward first second)
    (late : Onward second third) : Onward first third where
  number := UInt64.le_trans early.number late.number
  written number within :=
    (late.written number (UInt64.le_trans within early.number)).trans
      (early.written number within)
  intact same still := by
    have between : second.state.frameNumber = first.state.frameNumber :=
      UInt64.le_antisymm (same ▸ late.number) early.number
    exact early.intact between (late.intact (same.trans between.symm) still)

theorem Onward.of_step (step : Step old new) : Onward old new := by
  cases step with
  | idle => exact .refl old
  | lower _ | paint _ => exact ⟨UInt64.le_refl _, fun _ _ => rfl, fun _ still => absurd rfl still⟩
  | raise renumbered =>
    refine ⟨UInt64.le_refl _, fun _ _ => rfl, ?_⟩
    rw [renumbered]
    exact fun _ => id
  | @renumber _ _ number _ larger =>
    refine ⟨UInt64.le_of_lt larger, ?_, ?_⟩
    · intro other within
      have below : other ≠ number := by
        rintro rfl
        exact UInt64.not_le.mpr larger within
      exact Function.update_of_ne below old.payload old.written
    · intro same
      exact absurd (lt_of_lt_of_eq larger same) (UInt64.lt_irrefl _)

end Cell

namespace Studio

def cell? (studio : Studio) (index : Nat) : Option Cell :=
  (studio.board.header.slot? index).map fun state =>
    { state := state
      payload := studio.board.payload index
      phase := studio.phase index
      written := studio.written index }

theorem cell?_eq_some {studio : Studio} {index : Nat} {cell : Cell} :
    studio.cell? index = some cell ↔
      ∃ state, studio.board.header.slot? index = some state ∧
        { state := state
          payload := studio.board.payload index
          phase := studio.phase index
          written := studio.written index } = cell :=
  Option.map_eq_some_iff

variable {studio next : Studio} {index other : Nat} {cell : Cell}

theorem slot?_of_cell (held : studio.cell? other = some cell) :
    studio.board.header.slot? other = some cell.state := by
  obtain ⟨state, present, rfl⟩ := cell?_eq_some.mp held
  exact present

theorem cell?_mark {state : SlotState} {phase : Phase} (good : studio.board.WellFormed)
    (held : studio.cell? other = some cell) :
    (studio.mark index state phase).cell? other =
      some (if index = other then { cell with state := state, phase := phase } else cell) := by
  obtain ⟨was, present, rfl⟩ := cell?_eq_some.mp held
  have inside := Header.slot?_lt present
  have payload : (studio.mark index state phase).board.payload other =
      studio.board.payload other := Board.payload_setSlot good inside
  rw [cell?, payload]
  split
  · rename_i here
    subst here
    have shown : (studio.mark index state phase).board.header.slot? index = some state :=
      Header.slot?_setSlot_same inside
    rw [shown]
    simp only [Option.map_some, mark, Function.update_self]
  · rename_i apart
    have shown : (studio.mark index state phase).board.header.slot? other = some was :=
      (Header.slot?_setSlot_other apart).trans present
    rw [shown]
    simp only [Option.map_some, mark, Function.update_of_ne (Ne.symm apart)]

theorem cell?_record {number : UInt64} {payload : Bytes}
    (held : studio.cell? other = some cell) :
    (studio.record index number payload).cell? other =
      some (if index = other then
        { cell with written := Function.update cell.written number payload }
      else
        cell) := by
  obtain ⟨was, present, rfl⟩ := cell?_eq_some.mp held
  have shown : (studio.record index number payload).board.header.slot? other = some was := present
  rw [cell?, shown]
  split
  · rename_i here
    subst here
    simp only [Option.map_some, record, Function.update_self]
  · rename_i apart
    simp only [Option.map_some, record, Function.update_of_ne (Ne.symm apart)]

theorem cell?_paint {offset : Nat} {bytes : Bytes} {phase : Phase}
    (good : studio.board.WellFormed)
    (inside : index < studio.board.header.protocol.slotCount)
    (within : offset + bytes.length ≤ studio.board.header.payloadLength)
    (held : studio.cell? other = some cell) :
    (studio.paint index offset bytes phase).cell? other =
      some (if index = other then
        { cell with payload := cell.payload.overwrite offset bytes, phase := phase }
      else
        cell) := by
  obtain ⟨was, present, rfl⟩ := cell?_eq_some.mp held
  have shown : (studio.paint index offset bytes phase).board.header.slot? other = some was :=
    present
  rw [cell?, shown]
  split
  · rename_i here
    subst here
    have payload : (studio.paint index offset bytes phase).board.payload index =
        (studio.board.payload index).overwrite offset bytes :=
      Board.payload_paint_same good inside within
    rw [payload]
    simp only [Option.map_some, paint, Function.update_self]
  · rename_i apart
    have payload : (studio.paint index offset bytes phase).board.payload other =
        studio.board.payload other :=
      Board.payload_paint_other good apart inside (Header.slot?_lt present) within
    rw [payload]
    simp only [Option.map_some, paint, Function.update_of_ne (Ne.symm apart)]

theorem Step.sameShape (step : Step studio next) : Board.SameShape studio.board next.board := by
  cases step with
  | lower _ _ | renumber _ _ _ | raise _ _ _ => exact Board.sameShape_setSlot
  | paint _ _ _ => exact Board.sameShape_paint
  | tally _ => exact Board.sameShape_setTally

-- A step of the producer is a step of each slot.
theorem Step.onCell (step : Step studio next) (good : studio.board.WellFormed)
    (held : studio.cell? other = some cell) :
    ∃ after, next.cell? other = some after ∧ Cell.Step cell after := by
  obtain ⟨own, ownPresent, made⟩ := cell?_eq_some.mp held
  cases step with
  | @lower index state present settled =>
    refine ⟨_, cell?_mark good held, ?_⟩
    split
    · rename_i here
      subst here
      obtain rfl : state = own := Option.some.inj (present.symm.trans ownPresent)
      subst made
      exact .lower settled
    · exact .idle
  | @paint index offset patch bytes inside rewriting within =>
    refine ⟨_, cell?_paint good inside within held, ?_⟩
    split
    · rename_i here
      subst here made
      exact .paint rewriting
    · exact .idle
  | @renumber index patch state timestampMs number present rewriting larger =>
    refine ⟨_, cell?_record (cell?_mark good held), ?_⟩
    split
    · rename_i here
      subst here
      obtain rfl : state = own := Option.some.inj (present.symm.trans ownPresent)
      subst made
      exact .renumber rewriting larger
    · exact .idle
  | @raise index state ready present renumbered raised =>
    refine ⟨_, cell?_mark good held, ?_⟩
    split
    · rename_i here
      subst here
      obtain rfl : state = own := Option.some.inj (present.symm.trans ownPresent)
      subst made
      exact .raise renumbered
    · exact .idle
  | tally values =>
    refine ⟨cell, ?_, .idle⟩
    rw [← made]
    refine cell?_eq_some.mpr ⟨own, Header.slot?_setTally.trans ownPresent, ?_⟩
    have payload : (studio.board.setTally values).payload other = studio.board.payload other :=
      Board.payload_setTally good (Header.slot?_lt ownPresent)
    rw [payload]

structure Reaches (studio next : Studio) : Prop where
  sameShape : Board.SameShape studio.board next.board
  onCell : ∀ index cell, studio.cell? index = some cell →
    ∃ after, next.cell? index = some after ∧ cell.Onward after ∧ (cell.Coherent → after.Coherent)

theorem Reaches.refl (studio : Studio) : Reaches studio studio :=
  ⟨.refl _, fun _ cell held => ⟨cell, held, .refl cell, id⟩⟩

theorem Reaches.trans {first second third : Studio} (early : Reaches first second)
    (late : Reaches second third) : Reaches first third := by
  refine ⟨early.sameShape.trans late.sameShape, ?_⟩
  intro index cell held
  obtain ⟨between, heldBetween, onward, coherent⟩ := early.onCell index cell held
  obtain ⟨after, heldAfter, onwardLater, coherentLater⟩ := late.onCell index between heldBetween
  exact ⟨after, heldAfter, onward.trans onwardLater, coherentLater ∘ coherent⟩

theorem Reaches.of_step (good : studio.board.WellFormed) (step : Step studio next) :
    Reaches studio next := by
  refine ⟨step.sameShape, ?_⟩
  intro index cell held
  obtain ⟨after, heldAfter, stepped⟩ := step.onCell good held
  exact ⟨after, heldAfter, .of_step stepped, fun coherent => coherent.step stepped⟩

theorem Reaches.of_steps (good : studio.board.WellFormed) (steps : Steps studio next) :
    Reaches studio next := by
  induction steps with
  | refl => exact .refl studio
  | tail _ step ih => exact ih.trans (.of_step (ih.sameShape.wellFormed good) step)

theorem coherent_opened {board : Board} (held : (opened board).cell? index = some cell) :
    cell.Coherent := by
  obtain ⟨state, -, rfl⟩ := cell?_eq_some.mp held
  exact ⟨rfl, fun _ => rfl⟩

end Studio

structure Rewritten (start : Board) (studio : Nat → Studio) : Prop where
  wellFormed : start.WellFormed
  first : Studio.Steps (.opened start) (studio 0)
  step : ∀ call, Studio.Steps (studio call) (studio (call + 1))

namespace Rewritten

variable {start : Board} {studio : Nat → Studio} (rewritten : Rewritten start studio)

include rewritten

theorem wellFormed_at (call : Nat) : (studio call).board.WellFormed := by
  induction call with
  | zero =>
    have reached : Studio.Reaches (.opened start) (studio 0) :=
      .of_steps rewritten.wellFormed rewritten.first
    exact reached.sameShape.wellFormed rewritten.wellFormed
  | succ call ih => exact (Studio.Reaches.of_steps ih (rewritten.step call)).sameShape.wellFormed ih

theorem reaches {earlier later : Nat} (order : earlier ≤ later) :
    Studio.Reaches (studio earlier) (studio later) := by
  induction order with
  | refl => exact .refl _
  | @step later _ ih =>
    exact ih.trans (.of_steps (rewritten.wellFormed_at later) (rewritten.step later))

theorem staged : Staged fun call => (studio call).board where
  first := rewritten.wellFormed_at 0
  step call := (rewritten.reaches (Nat.le_succ call)).sameShape

theorem coherent {call index : Nat} {cell : Cell} (held : (studio call).cell? index = some cell) :
    cell.Coherent := by
  have reached := (Studio.Reaches.of_steps rewritten.wellFormed rewritten.first).trans
    (rewritten.reaches (Nat.zero_le call))
  have inside := Header.slot?_lt (Studio.slot?_of_cell held)
  rw [reached.sameShape.header.protocol, ← Header.slot?_isSome, Option.isSome_iff_exists] at inside
  obtain ⟨state, present⟩ := inside
  have before := Studio.cell?_eq_some.mpr ⟨state, present, rfl⟩
  obtain ⟨after, heldAfter, -, coherent⟩ := reached.onCell index _ before
  rw [held] at heldAfter
  cases heldAfter
  exact coherent (Studio.coherent_opened before)

-- A delivered copy is the payload written under its number, with what was written over it since
-- the flag was lowered.
theorem data_of_sighting {frame : Frame} {scan copy index : Nat}
    (sighting : Sighting (fun call => (studio call).board) frame scan copy index) :
    (∀ call, scan ≤ call →
      (studio call).written index frame.frameNumber =
        (studio scan).written index frame.frameNumber) ∧
    frame.data =
      ((studio copy).phase index).patch.apply ((studio scan).written index frame.frameNumber) ∧
    (¬((studio (copy + 1)).phase index).isRewriting →
      ¬((studio copy).phase index).isRewriting) := by
  obtain ⟨state, present, -, number, -⟩ := sighting.scanned
  have held := Studio.cell?_eq_some.mpr ⟨state, present, rfl⟩
  have kept (call : Nat) (later : scan ≤ call) :
      (studio call).written index frame.frameNumber =
        (studio scan).written index frame.frameNumber := by
    obtain ⟨cell, heldLater, onward, -⟩ := (rewritten.reaches later).onCell index _ held
    obtain ⟨_, -, rfl⟩ := Studio.cell?_eq_some.mp heldLater
    exact onward.written frame.frameNumber (number ▸ UInt64.le_refl _)
  refine ⟨kept, ?_⟩
  obtain ⟨copied, heldCopied, toCopy, -⟩ :=
    (rewritten.reaches (Nat.le_of_lt sighting.later)).onCell index _ held
  obtain ⟨checked, heldChecked, toCheck, -⟩ :=
    (rewritten.reaches (Nat.le_succ copy)).onCell index copied heldCopied
  have numberChecked : checked.state.frameNumber = frame.frameNumber := by
    obtain ⟨current, found, same⟩ := sighting.checked
    rw [Option.some.inj ((Studio.slot?_of_cell heldChecked).symm.trans found)]
    exact same
  -- Numbers never fall, so a number that is back at the check was there at the copy.
  have numberCopied : copied.state.frameNumber = frame.frameNumber := by
    have up := toCopy.number
    have back := toCheck.number
    rw [numberChecked] at back
    rw [← number] at back ⊢
    exact UInt64.le_antisymm back up
  have content := (rewritten.coherent heldCopied).content
  have intact := toCheck.intact (numberChecked.trans numberCopied.symm)
  rw [numberCopied] at content
  obtain ⟨_, -, rfl⟩ := Studio.cell?_eq_some.mp heldCopied
  obtain ⟨_, -, rfl⟩ := Studio.cell?_eq_some.mp heldChecked
  refine ⟨?_, intact⟩
  rw [sighting.data, ← kept copy (Nat.le_of_lt sighting.later)]
  exact content

-- Nothing is written over a payload whose flag is up.
theorem not_rewriting_of_ready {call index : Nat} {state : SlotState}
    (present : (studio call).board.header.slot? index = some state) (raised : state.ready ≠ 0) :
    ¬((studio call).phase index).isRewriting := by
  have held := Studio.cell?_eq_some.mpr ⟨state, present, rfl⟩
  have settled : (studio call).phase index = .settled := (rewritten.coherent held).guarded raised
  rw [settled]
  exact Bool.false_ne_true

end Rewritten

/-- A frame delivered from slots that are rewritten step by step holds the payload written under
its number with all that was written over it between the lowering of the flag and the copy. It is
that payload if the flag is up when the copy is made or checked. -/
theorem rewritten_frames {start : Board} {studio : Nat → Studio}
    (rewritten : Rewritten start studio) (sync : Synchronizer) (modes : List ExtractMode)
    (call : Nat) :
    let source := Source.ofViews fun call => (studio call).board.bytes
    ∀ poll ∈ (sync.polls (modes.map (source, ·)) call).1, ∀ frame ∈ poll.frames,
      ∃ scan copy index payload,
        scan < copy ∧
        (∃ state, (studio scan).board.header.slot? index = some state ∧ state.ready ≠ 0 ∧
          state.frameNumber = frame.frameNumber) ∧
        frame.slot = (studio scan).board.header.protocol.slotName index ∧
        (∃ state, (studio (copy + 1)).board.header.slot? index = some state ∧
          state.frameNumber = frame.frameNumber) ∧
        (∀ later, scan ≤ later → (studio later).written index frame.frameNumber = payload) ∧
        frame.data = ((studio copy).phase index).patch.apply payload ∧
        (∀ checked state, checked = copy ∨ checked = copy + 1 →
          (studio checked).board.header.slot? index = some state → state.ready ≠ 0 →
          frame.data = payload) := by
  intro source poll member frame delivered
  obtain ⟨scan, copy, index, sighting⟩ :=
    sighting_of_polls rewritten.staged sync modes call poll member frame delivered
  obtain ⟨kept, data, intact⟩ := rewritten.data_of_sighting sighting
  obtain ⟨state, present, raised, number, -⟩ := sighting.scanned
  refine ⟨scan, copy, index, _, sighting.later, ⟨state, present, raised, number⟩, sighting.slot,
    sighting.checked, kept, data, ?_⟩
  intro checked state when present raised
  have still : ¬((studio copy).phase index).isRewriting := by
    rcases when with rfl | rfl
    · exact rewritten.not_rewriting_of_ready present raised
    · exact intact (rewritten.not_rewriting_of_ready present raised)
  rw [data, Phase.patch_of_not_rewriting still]
  rfl

def singleFive : Board where
  header := .single
    { magic := Header.magicNumber
      version := Protocol.single.version
      picture := { width := 1, height := 1, stride := 4, format := 0 }
      timestampMs := 1005
      frameNumber := 5
      dataSize := 4
      ready := 1 }
  area := [5, 5, 5, 5]

def slowLowered : Studio := (Studio.opened singleFive).mark 0 ⟨0, 1005, 5⟩ (.rewriting [])

def slowHalf : Studio := slowLowered.paint 0 0 [6, 6] (.rewriting [(0, [6, 6])])

def slowPainted : Studio := slowHalf.paint 0 2 [6, 6] (.rewriting [(0, [6, 6]), (2, [6, 6])])

def slowRenumbered : Studio :=
  (slowPainted.mark 0 ⟨0, 1006, 6⟩ .renumbered).record 0 6 (slowPainted.board.payload 0)

def slowRaised : Studio := slowRenumbered.mark 0 ⟨1, 1006, 6⟩ .settled

-- Half of frame 6 is written when the payload is copied and when the copy is checked.
def slowStudio : Nat → Studio
  | 0 => Studio.opened singleFive
  | 1 | 2 => slowHalf
  | _ + 3 => slowRaised

theorem steps_slowHalf : Studio.Steps (.opened singleFive) slowHalf := by
  have five : (Studio.opened singleFive).board.header.slot? 0 = some ⟨1, 1005, 5⟩ := rfl
  have lower : Studio.Step (.opened singleFive) slowLowered := Studio.Step.lower five rfl
  have begun : slowLowered.phase 0 = .rewriting [] := rfl
  have paint : Studio.Step slowLowered slowHalf := Studio.Step.paint (by decide) begun (by decide)
  exact .tail (.single lower) paint

theorem steps_slowRaised : Studio.Steps slowHalf slowRaised := by
  have half : slowHalf.phase 0 = .rewriting [(0, [6, 6])] := rfl
  have paint : Studio.Step slowHalf slowPainted := Studio.Step.paint (by decide) half (by decide)
  have five : slowPainted.board.header.slot? 0 = some ⟨0, 1005, 5⟩ := rfl
  have renumber : Studio.Step slowPainted slowRenumbered :=
    Studio.Step.renumber five rfl (by decide)
  have six : slowRenumbered.board.header.slot? 0 = some ⟨0, 1006, 6⟩ := rfl
  have raise : Studio.Step slowRenumbered slowRaised := Studio.Step.raise six rfl (by decide)
  exact .tail (.tail (.single paint) renumber) raise

theorem slowStudio_rewritten : Rewritten singleFive slowStudio where
  wellFormed := ⟨⟨rfl, rfl⟩, by rw [Board.length_bytes]; rfl⟩
  first := .refl
  step call := by
    match call with
    | 0 => exact steps_slowHalf
    | 1 => exact .refl
    | 2 => exact steps_slowRaised
    | _ + 3 => exact .refl

def slowRun : List Poll :=
  ((Synchronizer.start .single).polls
    ([ExtractMode.latest].map
      (Source.ofViews fun call => (slowStudio call).board.bytes, ·)) 0).1

theorem slowRun_frames :
    (slowRun.flatMap (·.frames)).map (fun frame => (frame.frameNumber, frame.data)) =
      [(5, [6, 6, 5, 5])] := by
  decide +kernel

theorem written_slowStudio (call : Nat) : (slowStudio call).written 0 5 = [5, 5, 5, 5] := by
  match call with
  | 0 | 1 | 2 | _ + 3 => rfl

theorem only_slot_slowStudio {call index : Nat} {state : SlotState}
    (present : (slowStudio call).board.header.slot? index = some state) : index = 0 := by
  have inside := Header.slot?_lt present
  have single : (slowStudio call).board.header.protocol = .single := by
    match call with
    | 0 | 1 | 2 | _ + 3 => rfl
  rw [single] at inside
  exact Nat.lt_one_iff.mp inside

theorem slowRun_mixes :
    Rewritten singleFive slowStudio ∧
      ∃ poll ∈ slowRun, ∃ frame ∈ poll.frames, ∀ call,
        frame.data ≠ (slowStudio call).written 0 frame.frameNumber := by
  refine ⟨slowStudio_rewritten, ?_⟩
  have mixed : ((5 : UInt64), ([6, 6, 5, 5] : Bytes)) ∈
      (slowRun.flatMap (·.frames)).map (fun frame => (frame.frameNumber, frame.data)) := by
    rw [slowRun_frames]
    exact List.mem_singleton_self _
  obtain ⟨frame, inRun, same⟩ := List.mem_map.mp mixed
  obtain ⟨poll, member, delivered⟩ := List.mem_flatMap.mp inRun
  have number : frame.frameNumber = 5 := congrArg Prod.fst same
  have data : frame.data = [6, 6, 5, 5] := congrArg Prod.snd same
  refine ⟨poll, member, frame, delivered, ?_⟩
  intro call
  rw [number, data, written_slowStudio]
  decide

theorem rewritten_frames_slowRun :
    Rewritten singleFive slowStudio ∧
      ∀ poll ∈ slowRun, ∀ frame ∈ poll.frames, frame.data = [6, 6, 5, 5] ∧
        ∃ copy, frame.data = ((slowStudio copy).phase 0).patch.apply [5, 5, 5, 5] := by
  refine ⟨slowStudio_rewritten, ?_⟩
  intro poll member frame delivered
  have inRun : (frame.frameNumber, frame.data) ∈
      (slowRun.flatMap (·.frames)).map (fun frame => (frame.frameNumber, frame.data)) :=
    List.mem_map_of_mem (List.mem_flatMap.mpr ⟨poll, member, delivered⟩)
  rw [slowRun_frames, List.mem_singleton, Prod.mk.injEq] at inRun
  obtain ⟨number, data⟩ := inRun
  obtain ⟨scan, copy, index, payload, -, ⟨state, present, -⟩, -, -, kept, patched, -⟩ :=
    rewritten_frames slowStudio_rewritten (Synchronizer.start .single) [.latest] 0 poll member
      frame delivered
  obtain rfl : index = 0 := only_slot_slowStudio present
  have five := kept scan (Nat.le_refl scan)
  rw [number, written_slowStudio] at five
  exact ⟨data, copy, five ▸ patched⟩

end FrameTap
