import FrameTap.Proofs.Synchronizer.Pending
import FrameTap.Proofs.Synchronizer.Resets

set_option autoImplicit false

namespace FrameTap

namespace Synchronizer

structure CaughtUp (sync : Synchronizer) (header : Header) : Prop where
  protocol : header.protocol = sync.protocol
  calm : sync.restartObserved header = none
  consumed : ∀ candidate ∈ header.readyCandidates, candidate.frameNumber ≤ sync.lastConsumed
  total : ∀ h, header = .ring h → sync.lastTotal = h.totalFrames

def idleAttempt (sync : Synchronizer) : Attempt where
  result := .ok { frames := [], dropped := 0, torn := 0, reset := none }
  next := sync
  notices := []

namespace CaughtUp

variable {sync : Synchronizer} {header : Header} (caughtUp : sync.CaughtUp header)

include caughtUp

theorem kept_eq_nil (mode : ExtractMode) : (sync.select mode header).kept = [] := by
  by_contra taken
  obtain ⟨candidate, ready, new⟩ := (kept_ne_nil_iff mode).mp taken
  rw [baseline_of_unreset caughtUp.calm] at new
  exact UInt64.not_lt.mpr (caughtUp.consumed candidate ready) new

theorem hasNewFrame_eq_false : sync.hasNewFrame header = false := by
  rw [Bool.eq_false_iff, ne_eq, hasNewFrame_iff .allNew caughtUp.protocol]
  simp [caughtUp.calm, caughtUp.kept_eq_nil]

theorem select_eq (mode : ExtractMode) :
    sync.select mode header =
      { reset := none
        baseline := sync.lastConsumed
        lastTotal := sync.lastTotal
        kept := [] } := by
  have kept := caughtUp.kept_eq_nil mode
  have total : (sync.select mode header).lastTotal = sync.lastTotal := by
    cases header with
    | single h => simp [select, caughtUp.calm]
    | ring h => rw [select_lastTotal, caughtUp.total h rfl]
  calc sync.select mode header
    _ = { reset := none
          baseline := sync.lastConsumed
          lastTotal := (sync.select mode header).lastTotal
          kept := (sync.select mode header).kept } := by
      simp only [select, caughtUp.calm]
      rfl
    _ = _ := by rw [total, kept]

theorem extract_eq {m : Type → Type} [Monad m] [LawfulMonad m] {bytes : Bytes}
    (decoded : Header.decode bytes = .ok header) (mode : ExtractMode) :
    sync.extract (Source.ofBytes bytes : Source m) mode = pure sync.idleAttempt := by
  have fits : ∀ candidate ∈ (sync.select mode header).kept, candidate.Fits bytes := by
    simp [caughtUp.kept_eq_nil]
  rw [extract_ofBytes_taken decoded caughtUp.protocol fits, caughtUp.select_eq mode]
  rfl

-- However often and in whatever modes the region is extracted from.
theorem polls_eq {σ : Type} {bytes : Bytes} (decoded : Header.decode bytes = .ok header)
    (modes : List ExtractMode) (world : σ) :
    ∀ poll ∈ (sync.polls (modes.map (Source.ofBytes bytes, ·)) world).1,
      poll.attempt = sync.idleAttempt := by
  have stays : ∀ (reached : Synchronizer) (world : σ) (mode : ExtractMode), reached = sync →
      (reached.extract (Source.ofBytes bytes : Source (StateM σ)) mode world).1.next = sync := by
    rintro _ world mode rfl
    rw [caughtUp.extract_eq decoded mode]
    rfl
  intro poll member
  obtain ⟨reached, after, rfl, run, -⟩ :=
    polls_invariant (fun reached _ => reached = sync) stays rfl modes poll member
  rw [caughtUp.extract_eq decoded] at run
  exact (congrArg Prod.fst run).symm

end CaughtUp

end Synchronizer

section Taken

variable (sync : Synchronizer) (mode : ExtractMode) (header : Header) (bytes : Bytes)

-- The mode makes no difference to the number that is taken last.
theorem stillHaul_previous_allNew :
    (sync.stillHaul mode header bytes).previous =
      ((sync.select .allNew header).kept.map (·.frameNumber)).getLastD (sync.baseline header) := by
  cases mode <;> simp [List.getLastD_eq_getLast?, sync.getLast?_kept_latest]

theorem previous_cases :
    (∃ candidate ∈ (sync.select .allNew header).kept,
      (sync.stillHaul mode header bytes).previous = candidate.frameNumber) ∨
      (sync.stillHaul mode header bytes).previous = sync.baseline header := by
  rw [stillHaul_previous_allNew]
  rcases (highest_of_before (sync.baseline header) (sync.kept_before .allNew header)).2 with
    taken | ⟨-, base⟩
  · obtain ⟨candidate, kept, number⟩ := List.mem_map.mp taken
    exact Or.inl ⟨candidate, kept, number.symm⟩
  · exact Or.inr base

theorem baseline_le_previous :
    sync.baseline header ≤ (sync.stillHaul mode header bytes).previous := by
  rcases previous_cases sync mode header bytes with ⟨candidate, kept, number⟩ | base
  · rw [number]
    exact UInt64.le_of_lt (Synchronizer.baseline_lt_of_kept kept)
  · rw [base]
    exact UInt64.le_refl _

theorem ready_le_previous {candidate : Candidate} (ready : candidate ∈ header.readyCandidates) :
    candidate.frameNumber ≤ (sync.stillHaul mode header bytes).previous := by
  by_cases new : sync.baseline header < candidate.frameNumber
  · have kept := (sync.mem_kept_allNew header).mpr ⟨ready, new⟩
    rw [stillHaul_previous_allNew]
    exact (highest_of_before _ (sync.kept_before .allNew header)).1 candidate kept
  · exact UInt64.le_trans (UInt64.not_lt.mp new) (baseline_le_previous sync mode header bytes)

-- A number below the cursor is a restart, which moves the cursor down to it.
theorem previous_le_of_ready {h : SingleHeader} (ready : h.ready ≠ 0) :
    (sync.stillHaul mode (.single h) bytes).previous ≤ h.frameNumber := by
  rcases previous_cases sync mode (.single h) bytes with ⟨candidate, kept, number⟩ | base
  · have only := (Header.readyCandidates_single (Synchronizer.ready_of_kept kept)).2
    rw [number, only]
    exact UInt64.le_refl _
  · rw [base, Synchronizer.baseline]
    by_cases restarted : h.frameNumber < sync.lastConsumed
    · simp [Synchronizer.restartObserved, ready, restarted]
    · simpa [Synchronizer.restartObserved, restarted] using UInt64.not_lt.mp restarted

end Taken

theorem caughtUp_of_extracted {sync : Synchronizer} {mode : ExtractMode} {header : Header}
    {bytes : Bytes} (same : header.protocol = sync.protocol) :
    let next : Synchronizer :=
      { sync with
        lastConsumed := (sync.stillHaul mode header bytes).previous
        lastTotal := (sync.select mode header).lastTotal }
    next.CaughtUp header := by
  intro next
  refine ⟨same, ?_, fun _ ready => ready_le_previous sync mode header bytes ready, ?_⟩
  · cases header with
    | single h =>
      refine if_neg fun ⟨ready, below⟩ => ?_
      exact UInt64.not_lt.mpr (previous_le_of_ready sync mode bytes ready) below
    | ring h =>
      have total : next.lastTotal = h.totalFrames := sync.select_lastTotal mode h
      refine if_neg ?_
      rw [total]
      exact UInt64.lt_irrefl _
  · rintro h rfl
    exact sync.select_lastTotal mode h

/-- What a successful extraction leaves behind it is nothing: no frame is pending, and whatever is
extracted from the region afterwards is empty and changes nothing. -/
theorem extraction_exhausts {sync : Synchronizer} {bytes : Bytes} {mode : ExtractMode}
    {extraction : Extraction}
    (succeeded :
      (sync.extract (Source.ofBytes bytes : Source Id) mode).run.result = .ok extraction) :
    let next := (sync.extract (Source.ofBytes bytes : Source Id) mode).run.next
    (∃ header, Header.decode bytes = .ok header ∧ next.hasNewFrame header = false) ∧
      (∀ again, (next.extract (Source.ofBytes bytes : Source Id) again).run = next.idleAttempt) ∧
      ∀ modes : List ExtractMode, ∀ poll ∈ (next.polls (modes.map (Source.ofBytes bytes, ·)) ()).1,
        poll.attempt = next.idleAttempt := by
  intro next
  obtain ⟨header, agreed, fits, -⟩ := extracted_of_still succeeded
  obtain ⟨decoded, same⟩ := agreedHeader_eq_ok.mp agreed
  have caughtUp : next.CaughtUp header := by
    simp only [next, extract_ofBytes_taken (m := Id) decoded same fits]
    exact caughtUp_of_extracted same
  refine ⟨⟨header, decoded, caughtUp.hasNewFrame_eq_false⟩, ?_, ?_⟩
  · intro again
    rw [caughtUp.extract_eq decoded]
    rfl
  · intro modes
    exact caughtUp.polls_eq decoded modes ()

-- Two slots carry the same number, and one is flagged before it was numbered.
def crowdedRing : Bytes :=
  Header.encode
    (.ring
      { magic := Header.magicNumber, version := 2
        picture := { width := 1, height := 1, stride := 4, format := 0 }
        frameDataSize := 4, ringSize := 3, frameOffset := 120, writeIndex := 0, readIndex := 0
        totalFrames := 4, timestampMs := 0
        slots := { first := ⟨1, 30, 4⟩, second := ⟨1, 20, 0⟩, third := ⟨1, 10, 4⟩ } }) ++
    List.replicate 12 8

-- The slots that the latest mode passes over after a restart are not found later.
theorem extraction_exhausts_crowdedRing :
    let sync : Synchronizer := { protocol := .ring, lastConsumed := 9, lastTotal := 9 }
    let next : Synchronizer := { protocol := .ring, lastConsumed := 4, lastTotal := 4 }
    (sync.extract (Source.ofBytes crowdedRing : Source Id) .latest).run.result =
        .ok
          { frames := [ringFrame 4 10 2], dropped := 0, torn := 0
            reset := some { lastConsumed := 9, observed := 4 } } ∧
      (sync.extract (Source.ofBytes crowdedRing : Source Id) .latest).run.next = next ∧
      (∃ header, Header.decode crowdedRing = .ok header ∧ next.hasNewFrame header = false) ∧
      (next.extract (Source.ofBytes crowdedRing : Source Id) .allNew).run = next.idleAttempt := by
  intro sync next
  have succeeded :
      (sync.extract (Source.ofBytes crowdedRing : Source Id) .latest).run.result =
        .ok
          { frames := [ringFrame 4 10 2], dropped := 0, torn := 0
            reset := some { lastConsumed := 9, observed := 4 } } := by
    decide +kernel
  have left : (sync.extract (Source.ofBytes crowdedRing : Source Id) .latest).run.next = next := by
    decide +kernel
  obtain ⟨pending, again, -⟩ := extraction_exhausts succeeded
  rw [left] at pending again
  exact ⟨succeeded, left, pending, again .allNew⟩

end FrameTap
