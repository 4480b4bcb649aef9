import FrameTap.Proofs.Header.Fields
import FrameTap.Proofs.Producer.Board
import FrameTap.Proofs.Synchronizer.Readable
import FrameTap.Proofs.Synchronizer.Sessions
import FrameTap.Proofs.Synchronizer.Views

set_option autoImplicit false

namespace FrameTap

structure Staged (stage : Nat → Board) : Prop where
  first : (stage 0).WellFormed
  step : ∀ call, Board.SameShape (stage call) (stage (call + 1))

def stagedSource (stage : Nat → Board) : Source (StateM Nat) :=
  Source.ofViews fun call => (stage call).bytes

section Staged

variable {stage : Nat → Board} (staged : Staged stage)

include staged

theorem Staged.sameShape {earlier later : Nat} (order : earlier ≤ later) :
    Board.SameShape (stage earlier) (stage later) := by
  induction order with
  | refl => exact .refl _
  | step _ ih => exact ih.trans (staged.step _)

theorem Staged.wellFormed (call : Nat) : (stage call).WellFormed :=
  (staged.sameShape (Nat.zero_le call)).wellFormed staged.first

theorem readHeader_staged (call : Nat) :
    (stagedSource stage).readHeader call = (.ok (stage call).header, call + 1) := by
  rw [stagedSource, readHeader_ofViews, Board.decode_bytes (staged.wellFormed call)]
  rfl

variable {scan : Nat} {candidate : Candidate}
  (ready : candidate ∈ (stage scan).header.readyCandidates)

include ready

theorem candidate_within {call : Nat} (later : scan ≤ call) :
    candidate.offset + candidate.length ≤ (stage call).bytes.length := by
  obtain ⟨index, state, present, -, rfl⟩ := Header.mem_readyCandidates.mp ready
  rw [(staged.sameShape later).length_bytes_eq]
  exact (Header.payload_within (staged.wellFormed scan).layout (Header.slot?_lt present)).2

theorem copyOut_staged {call : Nat} (later : scan ≤ call) :
    (stagedSource stage).copyOut candidate.offset candidate.length call =
      (.ok ((stage call).payload candidate.index), call + 1) := by
  have within := candidate_within staged ready later
  obtain ⟨index, state, present, -, rfl⟩ := Header.mem_readyCandidates.mp ready
  have same := (staged.sameShape later).header
  rw [Header.index_candidateAt present, Board.payload, same.start, same.length]
  simp only [stagedSource, Source.ofViews, if_pos within]
  rfl

theorem stillCurrent_staged {call : Nat} (later : scan ≤ call) :
    (stagedSource stage).stillCurrent candidate call =
      (.ok (((stage call).header.slot? candidate.index).map (·.frameNumber) =
        some candidate.frameNumber), call + 1) := by
  obtain ⟨index, state, present, -, rfl⟩ := Header.mem_readyCandidates.mp ready
  have same := (staged.sameShape later).header
  rw [Source.stillCurrent, StateM.bind_of_eq (readHeader_staged staged call),
    Header.index_candidateAt present, ← Header.currentNumber_candidateAt present same.protocol]
  rfl

omit ready in
theorem checkBounds_staged {candidates : List Candidate}
    (ready : ∀ candidate ∈ candidates, candidate ∈ (stage scan).header.readyCandidates)
    {call : Nat} (later : scan ≤ call) :
    (stagedSource stage).checkBounds candidates call = (.ok (), call) := by
  induction candidates with
  | nil => rfl
  | cons candidate rest ih =>
    have size : (stagedSource stage).length call = ((stage call).bytes.length, call) := rfl
    have within := candidate_within staged (ready candidate List.mem_cons_self) later
    rw [Source.checkBounds, StateM.bind_of_eq size, if_pos within]
    exact ih fun other member => ready other (List.mem_cons_of_mem candidate member)

-- A candidate takes two calls, its copy and the header read that checks it.
theorem readable_staged {call : Nat} (later : scan ≤ call) :
    Readable (stagedSource stage) (call ≤ ·) candidate where
  inside world here :=
    ⟨_, world, rfl, candidate_within staged ready (later.trans here), here⟩
  copied world here :=
    ⟨_, world + 1, copyOut_staged staged ready (later.trans here), Nat.le_succ_of_le here⟩
  checked world here :=
    ⟨_, world + 1, stillCurrent_staged staged ready (later.trans here), Nat.le_succ_of_le here⟩

end Staged

/-- A frame seen ready in a slot when the header was scanned, copied at a later stage, and found
unchanged in its number at the stage after that. -/
structure Sighting (stage : Nat → Board) (frame : Frame) (scan copy index : Nat) : Prop where
  later : scan < copy
  scanned : ∃ state, (stage scan).header.slot? index = some state ∧ state.ready ≠ 0 ∧
    state.frameNumber = frame.frameNumber ∧ state.timestampMs = frame.timestampMs
  slot : frame.slot = (stage scan).header.protocol.slotName index
  data : frame.data = (stage copy).payload index
  checked : ∃ state, (stage (copy + 1)).header.slot? index = some state ∧
    state.frameNumber = frame.frameNumber

section Sighting

variable {stage : Nat → Board} (staged : Staged stage)

include staged

theorem sighting_of_copy {scan call : Nat} {candidate : Candidate} {data : Bytes}
    {copied checked : Nat} (ready : candidate ∈ (stage scan).header.readyCandidates)
    (later : scan < call)
    (copy : (stagedSource stage).copyOut candidate.offset candidate.length call =
      (.ok data, copied))
    (check : (stagedSource stage).stillCurrent candidate copied = (.ok true, checked)) :
    Sighting stage (candidate.frame (stage scan).header data) scan call candidate.index := by
  rw [copyOut_staged staged ready (Nat.le_of_lt later)] at copy
  cases copy
  rw [stillCurrent_staged staged ready (Nat.le_succ_of_le (Nat.le_of_lt later))] at check
  have current : ((stage (call + 1)).header.slot? candidate.index).map (·.frameNumber) =
      some candidate.frameNumber := by
    simpa using congrArg Prod.fst check
  obtain ⟨state, found, number⟩ := Option.map_eq_some_iff.mp current
  obtain ⟨index, scanned, present, raised, rfl⟩ := Header.mem_readyCandidates.mp ready
  rw [Header.index_candidateAt present] at found ⊢
  exact ⟨later, ⟨scanned, present, raised, rfl, rfl⟩, rfl, rfl, ⟨state, found, number⟩⟩

theorem call_lt_checked {scan call copied checked : Nat} {candidate : Candidate} {data : Bytes}
    {verdict : Bool} (ready : candidate ∈ (stage scan).header.readyCandidates)
    (later : scan ≤ call)
    (copy : (stagedSource stage).copyOut candidate.offset candidate.length call =
      (.ok data, copied))
    (check : (stagedSource stage).stillCurrent candidate copied = (.ok verdict, checked)) :
    call < checked := by
  rw [copyOut_staged staged ready later] at copy
  cases copy
  rw [stillCurrent_staged staged ready (Nat.le_succ_of_le later)] at check
  cases check
  omega

theorem sighting_of_copied {scan call after : Nat} {copies : List (Candidate × Option Bytes)}
    (made : Copied (stagedSource stage) call copies after) (later : scan < call)
    (ready : ∀ candidate ∈ copies.map Prod.fst,
      candidate ∈ (stage scan).header.readyCandidates) :
    ∀ frame ∈ deliveredFrames (stage scan).header copies,
      ∃ copy index, Sighting stage frame scan copy index := by
  induction made with
  | nil => exact fun _ delivered => absurd delivered List.not_mem_nil
  | @delivered call copied checked after candidate data rest copy check _ ih =>
    have first := ready candidate List.mem_cons_self
    have sighted := sighting_of_copy staged first later copy check
    have advanced := call_lt_checked staged first (Nat.le_of_lt later) copy check
    intro frame delivered
    rcases List.mem_cons.mp delivered with rfl | inRest
    · exact ⟨call, candidate.index, sighted⟩
    · exact ih (later.trans advanced)
        (fun other member => ready other (List.mem_cons_of_mem candidate member)) frame inRest
  | @discarded call copied checked after candidate data rest copy check _ ih =>
    have first := ready candidate List.mem_cons_self
    have advanced := call_lt_checked staged first (Nat.le_of_lt later) copy check
    exact ih (later.trans advanced)
      fun other member => ready other (List.mem_cons_of_mem candidate member)

variable {sync : Synchronizer} {mode : ExtractMode} {call : Nat}

-- No extraction fails while the geometry stays as it is.
theorem extract_staged (same : sync.protocol = (stage 0).header.protocol) (mode : ExtractMode)
    (call : Nat) :
    ∃ attempt after extraction, call < after ∧
      sync.extract (stagedSource stage) mode call = (attempt, after) ∧
      attempt.result = .ok extraction := by
  have protocol : (stage call).header.protocol = sync.protocol :=
    (staged.sameShape (Nat.zero_le call)).header.protocol.trans same.symm
  have readable : ∀ candidate ∈ (sync.select mode (stage call).header).kept,
      Readable (stagedSource stage) (call + 1 ≤ ·) candidate := by
    intro candidate taken
    exact readable_staged staged (Synchronizer.ready_of_kept taken) (Nat.le_succ call)
  obtain ⟨attempt, after, extraction, run, succeeded, onwards⟩ :=
    extract_readable (readHeader_staged staged call) protocol (Nat.le_refl (call + 1)) readable
  exact ⟨attempt, after, extraction, onwards, run, succeeded⟩

-- What an extraction finds at the stage that it scans.
theorem extracted_staged {attempt : Attempt} {extraction : Extraction} {after : Nat}
    (run : sync.extract (stagedSource stage) mode call = (attempt, after))
    (succeeded : attempt.result = .ok extraction) :
    ∃ copies, Extracted sync (stagedSource stage) mode call (stage call).header copies extraction
        attempt.next after ∧
      ∀ frame ∈ deliveredFrames (stage call).header copies,
        ∃ copy index, Sighting stage frame call copy index := by
  rcases extract_cases sync _ mode call run with ⟨error, failed, -⟩ |
    ⟨header, copies, found, found_eq, extracted⟩
  · rw [succeeded] at failed
    cases failed
  · rw [succeeded] at found_eq
    cases found_eq
    obtain ⟨scanned, checked, scan, bounds, made⟩ := extracted.run
    rw [readHeader_staged staged call] at scan
    cases scan
    have ready : ∀ candidate ∈ copies.map Prod.fst,
        candidate ∈ (stage call).header.readyCandidates := by
      intro candidate taken
      rw [extracted.candidates] at taken
      exact Synchronizer.ready_of_kept taken
    rw [checkBounds_staged staged (fun candidate taken => Synchronizer.ready_of_kept taken)
      (Nat.le_succ call)] at bounds
    cases bounds
    exact ⟨copies, extracted, sighting_of_copied staged made (Nat.lt_succ_self call) ready⟩

end Sighting

def Header.CountsOn : Header → Header → Prop
  | .single earlier, .single later =>
    earlier.ready ≠ 0 → later.ready ≠ 0 → earlier.frameNumber ≤ later.frameNumber
  | .ring earlier, .ring later => earlier.totalFrames ≤ later.totalFrames
  | _, _ => True

-- No stage from a call on shows a restart.
def Synchronizer.Calm (sync : Synchronizer) (stage : Nat → Board) (call : Nat) : Prop :=
  ∀ later, call ≤ later → ¬sync.Restarted (stage later).header

section Counters

variable {stage : Nat → Board}

theorem Synchronizer.calm_of_fresh {sync : Synchronizer} (unread : sync.lastConsumed = 0)
    (uncounted : sync.lastTotal = 0) (call : Nat) : sync.Calm stage call := by
  intro later _
  cases (stage later).header with
  | single h =>
    rintro ⟨-, below⟩
    rw [unread] at below
    exact UInt64.not_lt_zero below
  | ring h =>
    intro below
    have below : h.totalFrames < sync.lastTotal := below
    rw [uncounted] at below
    exact UInt64.not_lt_zero below

theorem not_restarted_next {sync next : Synchronizer} {source : Source (StateM Nat)}
    {mode : ExtractMode} {call after : Nat} {header later : Header}
    {copies : List (Candidate × Option Bytes)} {extraction : Extraction}
    (extracted : Extracted sync source mode call header copies extraction next after)
    (countsOn : header.CountsOn later) (same : later.protocol = header.protocol)
    (calm : ¬sync.Restarted header) (calmLater : ¬sync.Restarted later) :
    ¬next.Restarted later := by
  have base : sync.baseline header = sync.lastConsumed := by
    rw [Synchronizer.baseline, Synchronizer.restartObserved_eq, if_neg calm]
    rfl
  have consumed : next.lastConsumed =
      (frameNumbers (deliveredFrames header copies)).getLastD sync.lastConsumed := by
    rw [extracted.next_eq, ← base]
    exact Haul.settle_previous header _ copies
  cases header with
  | single h =>
    cases later with
    | ring l => cases same
    | single l =>
      rintro ⟨raised, below⟩
      -- The cursor is where it was or at a number that was ready.
      have member : next.lastConsumed ∈
          sync.lastConsumed :: frameNumbers (deliveredFrames (.single h) copies) :=
        consumed ▸ List.getLastD_mem_cons
      rcases List.mem_cons.mp member with old | new
      · exact calmLater ⟨raised, old ▸ below⟩
      · obtain ⟨candidate, taken, number⟩ :=
          List.mem_map.mp ((numbers_sublist_of_kept extracted.kept_prefix).subset new)
        obtain ⟨wasRaised, counted⟩ :=
          Header.readyCandidates_single (Synchronizer.ready_of_kept taken)
        rw [← number, counted] at below
        exact UInt64.not_le.mpr below (countsOn wasRaised raised)
  | ring h =>
    cases later with
    | single l => cases same
    | ring l =>
      intro below
      have total : next.lastTotal = max sync.lastTotal h.totalFrames := by
        rw [extracted.next_eq]
        change max (if (sync.restartObserved (.ring h)).isSome then 0 else sync.lastTotal) _ = _
        rw [Synchronizer.restartObserved_eq, if_neg calm]
        rfl
      have highest : next.lastTotal = sync.lastTotal ∨ next.lastTotal = h.totalFrames := by
        rw [total]
        change (if _ then _ else _) = _ ∨ (if _ then _ else _) = _
        split
        · exact Or.inr rfl
        · exact Or.inl rfl
      rcases highest with old | new
      · exact calmLater (lt_of_lt_of_eq below old)
      · exact UInt64.not_le.mpr (lt_of_lt_of_eq below new) countsOn

variable (staged : Staged stage)
  (countsOn : ∀ earlier later, earlier ≤ later →
    (stage earlier).header.CountsOn (stage later).header)

include staged countsOn

-- While counters only go up, an extraction cannot make a restart out of what it saw.
theorem calm_next {sync : Synchronizer} {mode : ExtractMode} {call after : Nat}
    {attempt : Attempt} (calm : sync.Calm stage call) (order : call ≤ after)
    (run : sync.extract (stagedSource stage) mode call = (attempt, after)) :
    attempt.next.Calm stage after := by
  intro later afterwards
  have onwards : call ≤ later := Nat.le_trans order afterwards
  rcases extract_cases sync _ mode call run with ⟨error, -, unchanged⟩ |
    ⟨_, _, extraction, succeeded, -⟩
  · rw [unchanged]
    exact calm later onwards
  · obtain ⟨copies, extracted, -⟩ := extracted_staged staged run succeeded
    exact not_restarted_next extracted (countsOn call later onwards)
      (staged.sameShape onwards).header.protocol (calm call (Nat.le_refl call))
      (calm later onwards)

-- Reading a region of one geometry whose counters only go up, every extraction of a run succeeds
-- and none reports a reset.
theorem polls_calm {sync : Synchronizer} (same : sync.protocol = (stage 0).header.protocol)
    {call : Nat} (calm : sync.Calm stage call) (modes : List ExtractMode) :
    ∀ poll ∈ (sync.polls (modes.map (stagedSource stage, ·)) call).1,
      ∃ extraction, poll.attempt.result = .ok extraction ∧ extraction.reset = none := by
  have kept (sync : Synchronizer) (call : Nat) (mode : ExtractMode)
      (holds : sync.protocol = (stage 0).header.protocol ∧ sync.Calm stage call) :
      (sync.extract (stagedSource stage) mode call).1.next.protocol =
          (stage 0).header.protocol ∧
        (sync.extract (stagedSource stage) mode call).1.next.Calm stage
          (sync.extract (stagedSource stage) mode call).2 := by
    obtain ⟨same, calm⟩ := holds
    obtain ⟨attempt, after, extraction, order, run, succeeded⟩ :=
      extract_staged staged same mode call
    obtain ⟨copies, extracted, -⟩ := extracted_staged staged run succeeded
    rw [run]
    refine ⟨?_, calm_next staged countsOn calm (Nat.le_of_lt order) run⟩
    rw [extracted.next_eq]
    exact same
  intro poll member
  obtain ⟨scan, after, ⟨samePoll, calmPoll⟩, run, -⟩ :=
    Synchronizer.polls_invariant _ kept ⟨same, calm⟩ modes poll member
  obtain ⟨attempt, _, extraction, -, succeeding, succeeded⟩ :=
    extract_staged staged samePoll poll.mode scan
  obtain ⟨rfl, -⟩ := Prod.mk.inj (succeeding.symm.trans run)
  obtain ⟨copies, extracted, -⟩ := extracted_staged staged run succeeded
  refine ⟨extraction, succeeded, ?_⟩
  rw [extracted.extraction_eq]
  change Option.map _ (poll.before.restartObserved _) = _
  rw [Synchronizer.restartObserved_eq, if_neg (calmPoll scan (Nat.le_refl scan))]
  rfl

end Counters

theorem scan_of_polls {stage : Nat → Board} (staged : Staged stage) (sync : Synchronizer)
    (modes : List ExtractMode) (call : Nat) :
    ∀ poll ∈ (sync.polls (modes.map (stagedSource stage, ·)) call).1,
      ∃ scan, poll.scan = .ok (stage scan).header := by
  intro poll member
  obtain ⟨scan, _, -, -, scanned⟩ := Synchronizer.polls_invariant (fun _ _ => True)
    (fun _ _ _ _ => trivial) trivial modes poll member
  exact ⟨scan, scanned.trans (congrArg Prod.fst (readHeader_staged staged scan))⟩

theorem sighting_of_polls {stage : Nat → Board} (staged : Staged stage) (sync : Synchronizer)
    (modes : List ExtractMode) (call : Nat) :
    ∀ poll ∈ (sync.polls (modes.map (stagedSource stage, ·)) call).1, ∀ frame ∈ poll.frames,
      ∃ scan copy index, Sighting stage frame scan copy index := by
  intro poll member frame delivered
  obtain ⟨scan, after, -, run, -⟩ := Synchronizer.polls_invariant (fun _ _ => True)
    (fun _ _ _ _ => trivial) trivial modes poll member
  cases outcome : poll.attempt.result with
  | error error =>
    rw [Poll.frames, outcome] at delivered
    exact absurd delivered List.not_mem_nil
  | ok extraction =>
    obtain ⟨copies, extracted, sighted⟩ := extracted_staged staged run outcome
    rw [Poll.frames_of_extracted outcome extracted] at delivered
    exact ⟨scan, sighted frame delivered⟩

end FrameTap
