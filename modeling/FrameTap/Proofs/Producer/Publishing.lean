import FrameTap.Proofs.Producer.Timeline

set_option autoImplicit false

namespace FrameTap

/-- What a publication writes into a slot whose payload has `size` bytes, and beside the slots. -/
structure Publication (size : Nat) where
  ready : UInt32
  raised : ready ≠ 0
  timestampMs : UInt64
  payload : Bytes
  whole : payload.length = size
  headerTimestampMs : UInt64
  writeIndex : UInt32
  readIndex : UInt32

namespace Publication

variable {size : Nat} (publication : Publication size) (count : Nat)

-- The slot as the publication after `count` earlier ones leaves it.
def slotState : SlotState where
  ready := publication.ready
  timestampMs := publication.timestampMs
  frameNumber := UInt64.ofNat (count + 1)

def tally : Tally where
  totalFrames := UInt64.ofNat (count + 1)
  timestampMs := publication.headerTimestampMs
  writeIndex := publication.writeIndex
  readIndex := publication.readIndex

end Publication

/-- The publication, before `count` publications, that the slot at `index` still holds. -/
def newest (slots index : Nat) : Nat → Option Nat
  | 0 => none
  | count + 1 => if count % slots = index then some count else newest slots index count

theorem newest_some {slots index count found : Nat} (held : newest slots index count = some found) :
    found < count ∧ found % slots = index := by
  induction count with
  | zero => cases held
  | succ count ih =>
    rw [newest] at held
    split at held
    · rename_i here
      cases held
      exact ⟨Nat.lt_succ_self _, here⟩
    · obtain ⟨before, here⟩ := ih held
      exact ⟨Nat.lt_succ_of_lt before, here⟩

theorem newest_inside {slots index count found : Nat} (positive : 0 < slots)
    (held : newest slots index count = some found) : index < slots := by
  rw [← (newest_some held).2]
  exact Nat.mod_lt found positive

theorem newest_mono {slots index count later found : Nat} (order : count ≤ later)
    (held : newest slots index count = some found) :
    ∃ other, newest slots index later = some other ∧ found ≤ other := by
  induction order with
  | refl => exact ⟨found, held, Nat.le_refl found⟩
  | step _ ih =>
    obtain ⟨other, stillHeld, above⟩ := ih
    rw [newest]
    split
    · exact ⟨_, rfl, Nat.le_trans above (Nat.le_of_lt (newest_some stillHeld).1)⟩
    · exact ⟨other, stillHeld, above⟩

namespace Board

variable {size : Nat}

def publish (board : Board) (count : Nat) (publication : Publication size) : Board :=
  let index := count % board.header.protocol.slotCount
  ((board.setSlot index (publication.slotState count)).paint index 0 publication.payload).setTally
    (publication.tally count)

def after (start : Board) (feed : Nat → Publication size) : Nat → Board
  | 0 => start
  | count + 1 => (start.after feed count).publish count (feed count)

structure Idle (board : Board) : Prop where
  wellFormed : board.WellFormed
  unready : ∀ index state, board.header.slot? index = some state → state.ready = 0
  uncounted : ∀ h, board.header = .ring h → h.totalFrames = 0

section Publish

variable {board : Board} {count index : Nat} {publication : Publication size}

theorem sameShape_publish : SameShape board (board.publish count publication) :=
  (sameShape_setSlot.trans sameShape_paint).trans sameShape_setTally

theorem slot?_publish (inside : index < board.header.protocol.slotCount) :
    (board.publish count publication).header.slot? index =
      if count % board.header.protocol.slotCount = index then
        some (publication.slotState count)
      else
        board.header.slot? index := by
  change (Header.setTally (Header.setSlot _ _ _) _).slot? index = _
  rw [Header.slot?_setTally]
  split
  · rename_i here
    rw [here]
    exact Header.slot?_setSlot_same inside
  · rename_i elsewhere
    exact Header.slot?_setSlot_other elsewhere

theorem payload_publish (good : board.WellFormed) (fitting : size = board.header.payloadLength)
    (inside : index < board.header.protocol.slotCount) :
    (board.publish count publication).payload index =
      if count % board.header.protocol.slotCount = index then
        publication.payload
      else
        board.payload index := by
  have slot := Nat.mod_lt count board.header.protocol.slotCount_pos
  let flagged := board.setSlot (count % board.header.protocol.slotCount)
    (publication.slotState count)
  have same : SameShape board flagged := sameShape_setSlot
  have flaggedGood := same.wellFormed good
  have flaggedSlot := same.inside slot
  have flaggedInside := same.inside inside
  have within : 0 + publication.payload.length ≤ flagged.header.payloadLength := by
    rw [same.header.length, publication.whole, fitting, Nat.zero_add]
  have paintedInside : index <
      (flagged.paint (count % board.header.protocol.slotCount) 0
        publication.payload).header.protocol.slotCount := flaggedInside
  rw [publish, payload_setTally (sameShape_paint.wellFormed flaggedGood) paintedInside]
  split
  -- The slot published into is written as a whole, so nothing of its former payload is left.
  · rename_i here
    subst here
    rw [payload_paint_same flaggedGood flaggedSlot within]
    apply Bytes.overwrite_whole
    rw [flaggedGood.length_payload flaggedSlot, publication.whole, fitting, same.header.length]
  · rename_i elsewhere
    rw [payload_paint_other flaggedGood elsewhere flaggedSlot flaggedInside within,
      payload_setSlot good inside]

end Publish

section After

variable {start : Board} (feed : Nat → Publication start.header.payloadLength)

theorem sameShape_after {count later : Nat} (order : count ≤ later) :
    SameShape (start.after feed count) (start.after feed later) := by
  induction order with
  | refl => exact .refl _
  | step _ ih => exact ih.trans sameShape_publish

theorem protocol_after (count : Nat) :
    (start.after feed count).header.protocol = start.header.protocol :=
  (sameShape_after feed (Nat.zero_le count)).header.protocol

variable {feed} {count index : Nat}

-- A slot carries what was last published into it.
theorem slot?_after (inside : index < start.header.protocol.slotCount) :
    (start.after feed count).header.slot? index =
      match newest start.header.protocol.slotCount index count with
      | some found => some ((feed found).slotState found)
      | none => start.header.slot? index := by
  induction count with
  | zero => rfl
  | succ count ih =>
    have same := sameShape_after feed (Nat.zero_le count)
    rw [after, slot?_publish (same.inside inside), protocol_after, newest]
    split
    · rfl
    · exact ih

theorem payload_after (good : start.WellFormed) {found : Nat}
    (held : newest start.header.protocol.slotCount index count = some found) :
    (start.after feed count).payload index = (feed found).payload := by
  induction count with
  | zero => cases held
  | succ count ih =>
    have same := sameShape_after feed (Nat.zero_le count)
    have inside := same.inside (newest_inside start.header.protocol.slotCount_pos held)
    have fitting : start.header.payloadLength = (start.after feed count).header.payloadLength :=
      same.header.length.symm
    rw [after, payload_publish (same.wellFormed good) fitting inside, protocol_after]
    rw [newest] at held
    split
    · rename_i here
      rw [if_pos here] at held
      cases held
      rfl
    · rename_i elsewhere
      rw [if_neg elsewhere] at held
      exact ih held

theorem held_of_ready (idle : start.Idle) {state : SlotState}
    (present : (start.after feed count).header.slot? index = some state)
    (raised : state.ready ≠ 0) :
    ∃ found, newest start.header.protocol.slotCount index count = some found ∧
      state = (feed found).slotState found := by
  have inside : index < start.header.protocol.slotCount := by
    rw [← protocol_after feed count]
    exact Header.slot?_lt present
  rw [slot?_after inside] at present
  cases held : newest start.header.protocol.slotCount index count with
  | none =>
    rw [held] at present
    exact absurd (idle.unready index state present) raised
  | some found =>
    rw [held] at present
    exact ⟨found, rfl, (Option.some.inj present).symm⟩

theorem totalFrames_after (idle : start.Idle) {h : RingHeader}
    (shown : (start.after feed count).header = .ring h) :
    h.totalFrames = UInt64.ofNat count := by
  cases count with
  | zero => exact idle.uncounted h shown
  | succ count => exact Header.totalFrames_setTally shown

end After

end Board

-- How many publications precede the copy numbered `call` if `pace` says how many come right
-- before each.
def published (pace : Nat → Nat) : Nat → Nat
  | 0 => pace 0
  | call + 1 => published pace call + pace (call + 1)

theorem published_mono (pace : Nat → Nat) {earlier later : Nat} (order : earlier ≤ later) :
    published pace earlier ≤ published pace later := by
  induction order with
  | refl => exact Nat.le_refl _
  | step _ ih => exact Nat.le_trans ih (Nat.le_add_right _ _)

def publishing (start : Board) (feed : Nat → Publication start.header.payloadLength)
    (pace : Nat → Nat) (call : Nat) : Board :=
  start.after feed (published pace call)

section Publishing

variable {start : Board} {feed : Nat → Publication start.header.payloadLength} {pace : Nat → Nat}
  (idle : start.Idle) (bounded : ∀ call, published pace call < UInt64.size)

include idle

theorem staged_publishing : Staged (publishing start feed pace) where
  first := (Board.sameShape_after feed (Nat.zero_le _)).wellFormed idle.wellFormed
  step call := Board.sameShape_after feed (published_mono pace (Nat.le_succ call))

include bounded

omit idle in
variable (feed) in
theorem number_held {call index found : Nat}
    (held : newest start.header.protocol.slotCount index (published pace call) = some found) :
    ((feed found).slotState found).frameNumber.toNat = found + 1 := by
  have before := (newest_some held).1
  have small := bounded call
  exact UInt64.toNat_ofNat_of_lt' (by omega)

theorem number_le_publishing {earlier later index : Nat} {old new : SlotState}
    (order : earlier ≤ later)
    (was : (publishing start feed pace earlier).header.slot? index = some old)
    (wasRaised : old.ready ≠ 0)
    (becomes : (publishing start feed pace later).header.slot? index = some new)
    (raised : new.ready ≠ 0) : old.frameNumber ≤ new.frameNumber := by
  obtain ⟨found, held, rfl⟩ := Board.held_of_ready idle was wasRaised
  obtain ⟨other, stillHeld, rfl⟩ := Board.held_of_ready idle becomes raised
  obtain ⟨_, heldLater, above⟩ := newest_mono (published_mono pace order) held
  rw [stillHeld] at heldLater
  cases heldLater
  rw [UInt64.le_iff_toNat_le, number_held feed bounded held, number_held feed bounded stillHeld]
  omega

theorem countsOn_publishing (earlier later : Nat) (order : earlier ≤ later) :
    (publishing start feed pace earlier).header.CountsOn
      (publishing start feed pace later).header := by
  cases was : (publishing start feed pace earlier).header with
  | single h =>
    cases becomes : (publishing start feed pace later).header with
    | single l =>
      intro wasRaised raised
      exact number_le_publishing idle bounded order (congrArg (·.slot? 0) was)
        wasRaised (congrArg (·.slot? 0) becomes) raised
    | ring l => trivial
  | ring h =>
    cases becomes : (publishing start feed pace later).header with
    | single l => trivial
    | ring l =>
      change h.totalFrames ≤ l.totalFrames
      rw [Board.totalFrames_after idle was, Board.totalFrames_after idle becomes,
        UInt64.le_iff_toNat_le, UInt64.toNat_ofNat_of_lt' (bounded earlier),
        UInt64.toNat_ofNat_of_lt' (bounded later)]
      exact published_mono pace order

theorem distinct_publishing (call : Nat) :
    (publishing start feed pace call).header.DistinctReady := by
  rw [Header.DistinctReady, List.Nodup, List.pairwise_map]
  refine (Header.readyCandidates_slot_order _).imp_of_mem ?_
  intro earlier later earlierReady laterReady order equal
  obtain ⟨index, state, present, raised, rfl⟩ := Header.mem_readyCandidates.mp earlierReady
  obtain ⟨other, otherState, otherPresent, otherRaised, rfl⟩ :=
    Header.mem_readyCandidates.mp laterReady
  rw [Header.index_candidateAt present, Header.index_candidateAt otherPresent] at order
  obtain ⟨found, held, rfl⟩ := Board.held_of_ready idle present raised
  obtain ⟨otherFound, otherHeld, rfl⟩ := Board.held_of_ready idle otherPresent otherRaised
  have numbers := congrArg UInt64.toNat equal
  change ((feed found).slotState found).frameNumber.toNat =
    ((feed otherFound).slotState otherFound).frameNumber.toNat at numbers
  rw [number_held feed bounded held, number_held feed bounded otherHeld] at numbers
  -- One publication went into one slot only.
  have same : found = otherFound := by omega
  rw [← (newest_some held).2, ← (newest_some otherHeld).2, same] at order
  exact Nat.lt_irrefl _ order

theorem published_of_sighting {frame : Frame} {scan copy index : Nat}
    (sighting : Sighting (publishing start feed pace) frame scan copy index) :
    ∃ count, count < published pace scan ∧ frame.frameNumber.toNat = count + 1 ∧
      frame.data = (feed count).payload ∧ frame.timestampMs = (feed count).timestampMs ∧
      frame.slot =
        start.header.protocol.slotName (count % start.header.protocol.slotCount) := by
  obtain ⟨state, present, raised, number, stamp⟩ := sighting.scanned
  obtain ⟨found, held, rfl⟩ := Board.held_of_ready idle present raised
  obtain ⟨copied, heldAtCopy, upToCopy⟩ :=
    newest_mono (published_mono pace (Nat.le_of_lt sighting.later)) held
  obtain ⟨checked, heldAtCheck, upToCheck⟩ :=
    newest_mono (published_mono pace (Nat.le_succ copy)) heldAtCopy
  have numbered := number_held feed bounded held
  rw [number] at numbered
  -- The number read last is that of the publication the slot holds then, so none came between.
  have unchanged : checked = found := by
    obtain ⟨current, currentPresent, same⟩ := sighting.checked
    have inside := newest_inside start.header.protocol.slotCount_pos held
    rw [publishing, Board.slot?_after inside, heldAtCheck] at currentPresent
    have state := Option.some.inj currentPresent
    have last := number_held feed bounded heldAtCheck
    rw [state, same] at last
    omega
  have copiedThen : copied = found := by omega
  rw [copiedThen] at heldAtCopy
  refine ⟨found, (newest_some held).1, numbered, ?_, stamp.symm, ?_⟩
  · rw [sighting.data]
    exact Board.payload_after idle.wellFormed heldAtCopy
  · rw [sighting.slot, (newest_some held).2]
    exact congrArg (·.slotName index) (Board.protocol_after feed _)

end Publishing

/-- However publications fall between the copies of a run, every extraction succeeds within one
session, and what is delivered is what was published. -/
theorem publications_delivered (start : Board) (idle : start.Idle)
    (feed : Nat → Publication start.header.payloadLength) (pace : Nat → Nat)
    (bounded : ∀ call, published pace call < UInt64.size) (modes : List ExtractMode) :
    let source := Source.ofViews fun call => (publishing start feed pace call).bytes
    let fresh := Synchronizer.start start.header.protocol
    let polls := (fresh.polls (modes.map (source, ·)) 0).1
    (∀ poll ∈ polls, ∃ extraction,
      poll.attempt.result = .ok extraction ∧ extraction.reset = none) ∧
    (numbers polls).Pairwise (· < ·) ∧
    (∀ poll ∈ polls, ∀ frame ∈ poll.frames, ∃ count call,
      count < published pace call ∧ frame.frameNumber.toNat = count + 1 ∧
      frame.data = (feed count).payload ∧ frame.timestampMs = (feed count).timestampMs ∧
      frame.slot =
        start.header.protocol.slotName (count % start.header.protocol.slotCount)) ∧
    (fresh.afterPolls polls).lastConsumed = (numbers polls).getLastD 0 ∧
    (∀ first last, (numbers polls).head? = some first → (numbers polls).getLast? = some last →
      (numbers polls).length + lost polls + first.toNat = last.toNat + 1) := by
  intro source fresh polls
  have staged : Staged (publishing start feed pace) := staged_publishing idle
  have linked : Linked fresh polls := fresh.polls_linked _ 0
  have protocol : fresh.protocol = (publishing start feed pace 0).header.protocol :=
    (Board.protocol_after feed _).symm
  have calm := polls_calm staged (countsOn_publishing idle bounded) protocol
    (Synchronizer.calm_of_fresh rfl rfl 0) modes
  have distinct : DistinctScans polls := by
    intro poll member header scanned
    obtain ⟨call, scan⟩ := scan_of_polls staged fresh modes 0 poll member
    rw [scan] at scanned
    cases scanned
    exact distinct_publishing idle bounded call
  obtain ⟨account, cursor⟩ := account_of_one_session rfl linked fun poll member => by
    obtain ⟨extraction, succeeded, unreset⟩ := calm poll member
    simp [Poll.startsSession, succeeded, unreset]
  refine ⟨calm, account.increasing distinct, ?_, cursor, ?_⟩
  · intro poll member frame delivered
    obtain ⟨scan, copy, index, sighting⟩ :=
      sighting_of_polls staged fresh modes 0 poll member frame delivered
    obtain ⟨count, known⟩ := published_of_sighting idle bounded sighting
    exact ⟨count, scan, known⟩
  · intro first last isFirst isLast
    exact account.covered distinct isFirst isLast

def smallRing : Board where
  header := .ring
    { magic := Header.magicNumber
      version := Protocol.ring.version
      picture := { width := 1, height := 1, stride := 4, format := 0 }
      frameDataSize := 4
      ringSize := 3
      frameOffset := 120
      writeIndex := 0
      readIndex := 0
      totalFrames := 0
      timestampMs := 0
      slots := { first := ⟨0, 0, 0⟩, second := ⟨0, 0, 0⟩, third := ⟨0, 0, 0⟩ } }
  area := List.replicate 12 0

theorem smallRing_idle : smallRing.Idle where
  wellFormed := by
    refine ⟨⟨rfl, rfl, rfl⟩, ?_⟩
    rw [Board.length_bytes]
    rfl
  unready index state present := by
    match index with
    | 0 | 1 | 2 =>
      cases present
      rfl
    | _ + 3 => cases present
  uncounted h shown := by
    cases shown
    rfl

def plainFeed (count : Nat) : Publication smallRing.header.payloadLength where
  ready := 1
  raised := by decide
  timestampMs := UInt64.ofNat (1000 + count)
  payload := List.replicate 4 (UInt8.ofNat count)
  whole := rfl
  headerTimestampMs := UInt64.ofNat (1000 + count)
  writeIndex := UInt32.ofNat ((count + 1) % Slots.count)
  readIndex := 0

-- One publication before each of the first five copies.
def briefPace (call : Nat) : Nat := if call < 5 then 1 else 0

theorem published_briefPace (call : Nat) : published briefPace call = min (call + 1) 5 := by
  induction call with
  | zero => rfl
  | succ call ih =>
    rw [published, ih, briefPace]
    split <;> omega

theorem briefPace_bounded (call : Nat) : published briefPace call < UInt64.size := by
  have few := published_briefPace call
  have many : 5 < UInt64.size := by decide
  omega

def smallRun : List Poll :=
  ((Synchronizer.start .ring).polls
    ([ExtractMode.allNew, .latest, .allNew].map
      (Source.ofViews fun call => (publishing smallRing plainFeed briefPace call).bytes, ·)) 0).1

-- The second extraction takes the latest frame only, past 2 and 3.
theorem publications_delivered_smallRing :
    smallRing.Idle ∧ (∀ call, published briefPace call < UInt64.size) ∧
      numbers smallRun = [1, 4, 5] ∧ lost smallRun = 2 ∧ (numbers smallRun).Pairwise (· < ·) ∧
      ∀ poll ∈ smallRun, ∃ extraction,
        poll.attempt.result = .ok extraction ∧ extraction.reset = none := by
  have delivered := publications_delivered smallRing smallRing_idle plainFeed briefPace
    briefPace_bounded [.allNew, .latest, .allNew]
  exact ⟨smallRing_idle, briefPace_bounded, by decide +kernel, by decide +kernel, delivered.2.1,
    delivered.1⟩

end FrameTap
