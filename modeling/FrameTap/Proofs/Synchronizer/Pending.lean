import FrameTap.Proofs.Synchronizer.Modes
import FrameTap.Receiver.Waiting

set_option autoImplicit false

namespace FrameTap

section Selected

variable {sync : Synchronizer} (mode : ExtractMode) {header : Header}

theorem kept_ne_nil_iff :
    (sync.select mode header).kept ≠ [] ↔
      ∃ candidate ∈ header.readyCandidates, sync.baseline header < candidate.frameNumber := by
  have all : (sync.select mode header).kept ≠ [] ↔ (sync.select .allNew header).kept ≠ [] := by
    cases mode with
    | allNew => rfl
    | latest => simp [sync.kept_latest_eq_getLast?, Option.toList_eq_nil_iff]
  rw [all, ne_eq, List.eq_nil_iff_forall_not_mem]
  simp only [Synchronizer.mem_kept_allNew, not_forall, not_not]

-- A restart makes any ready slot new, so it is enough that it was observed.
theorem hasNewFrame_iff (same : header.protocol = sync.protocol) :
    sync.hasNewFrame header = true ↔
      (sync.restartObserved header).isSome ∨ (sync.select mode header).kept ≠ [] := by
  rw [kept_ne_nil_iff mode]
  cases restart : sync.restartObserved header with
  | some observed => simp [Synchronizer.hasNewFrame, same, restart]
  | none => simp [Synchronizer.hasNewFrame, same, restart, Synchronizer.baseline]

theorem hasNewFrame_eq_false (same : header.protocol = sync.protocol)
    (idle : sync.hasNewFrame header = false) :
    sync.restartObserved header = none ∧ (sync.select mode header).kept = [] := by
  have none := (hasNewFrame_iff mode same).not.mp (Bool.eq_false_iff.mp idle)
  simpa using none

end Selected

-- What a wait finds out about a region that stands still.
def Synchronizer.pending (sync : Synchronizer) (bytes : Bytes) : Except Error Bool :=
  (sync.agreedHeader bytes).map sync.hasNewFrame

section Foretold

variable (sync : Synchronizer) (bytes : Bytes) (mode : ExtractMode)

-- A frame outside of the region is found by the extraction only, and its error is another one.
theorem pending_eq_error_iff (error : Error) :
    sync.pending bytes = .error error ↔
      (sync.extract (Source.ofBytes bytes : Source Id) mode).run.result = .error error ∧
        ∃ mismatch, error = .protocolMismatch mismatch := by
  have outcome := stillAttempt_extract sync bytes mode
  generalize (sync.extract (Source.ofBytes bytes : Source Id) mode).run = attempt at outcome
  cases outcome with
  | refused mismatch disagreed =>
    simp only [Synchronizer.pending, disagreed, Except.map, Synchronizer.failedAttempt,
      Except.error.injEq]
    exact ⟨fun same => ⟨same, mismatch, same.symm⟩, And.left⟩
  | beyond header candidate agreed kept outside =>
    simp only [Synchronizer.pending, agreed, Except.map, Synchronizer.failedAttempt,
      Except.error.injEq]
    constructor
    · nofun
    · rintro ⟨rfl, _, ⟨⟩⟩
  | taken header agreed fits => simp [Synchronizer.pending, agreed, Except.map]

variable {sync bytes mode}

theorem pending_eq_true_iff {extraction : Extraction}
    (succeeded :
      (sync.extract (Source.ofBytes bytes : Source Id) mode).run.result = .ok extraction) :
    sync.pending bytes = .ok true ↔ extraction.frames ≠ [] ∨ extraction.reset.isSome := by
  obtain ⟨header, agreed, fits, rfl⟩ := extracted_of_still succeeded
  have same := (agreedHeader_eq_ok.mp agreed).2
  simp [Synchronizer.pending, agreed, Except.map, hasNewFrame_iff mode same, Haul.extraction,
    or_comm]

variable (mode) in
theorem agreed_of_not_pending (idle : sync.pending bytes = .ok false) :
    ∃ header, sync.agreedHeader bytes = .ok header ∧ sync.restartObserved header = none ∧
      (sync.select mode header).kept = [] := by
  cases agreed : sync.agreedHeader bytes with
  | error error => simp [Synchronizer.pending, agreed, Except.map] at idle
  | ok header =>
    have unseen : sync.hasNewFrame header = false := by
      simpa [Synchronizer.pending, agreed, Except.map] using idle
    exact ⟨header, rfl, hasNewFrame_eq_false mode (agreedHeader_eq_ok.mp agreed).2 unseen⟩

theorem extract_of_not_pending (idle : sync.pending bytes = .ok false) :
    let attempt := (sync.extract (Source.ofBytes bytes : Source Id) mode).run
    ∃ extraction, attempt.result = .ok extraction ∧ extraction.frames = [] ∧
      attempt.next.lastConsumed = sync.lastConsumed := by
  obtain ⟨header, agreed, unreset, nothing⟩ := agreed_of_not_pending mode idle
  have fits : ∀ candidate ∈ (sync.select mode header).kept, candidate.Fits bytes := by
    simp [nothing]
  obtain ⟨succeeded, consumed, -⟩ := extract_agreed agreed fits
  refine ⟨_, succeeded, ?_, ?_⟩
  · simp [Haul.extraction, nothing]
  · simp [consumed, nothing, Synchronizer.baseline_of_unreset unreset]

end Foretold

section Looks

theorem Synchronizer.pending_front (sync : Synchronizer) {bytes : Bytes} {size : Nat}
    (sized : bytes.length = size) :
    sync.pending (bytes.slice 0 (min size Protocol.ring.headerLength)) = sync.pending bytes := by
  subst sized
  simp only [pending, agreedHeader, Header.decode_front]

-- Whatever the region does meanwhile, the check rests on the one copy that it makes.
theorem framePending_eq {m : Type → Type} [Monad m] [LawfulMonad m] (connection : Connection m) :
    connection.framePending = do
      let length ← connection.region.source.length
      let seen ← connection.region.source.copyOut 0 (min length Protocol.ring.headerLength)
      return seen.bind connection.sync.pending := by
  rw [Connection.framePending, Source.readHeader, bind_assoc]
  refine congrArg _ (funext fun length => ?_)
  rw [bind_assoc]
  refine congrArg _ (funext fun seen => ?_)
  cases seen with
  | error error => simp [Except.bind]
  | ok front =>
    simp only [pure_bind, Except.bind, Synchronizer.pending, Synchronizer.agreedHeader]
    cases Header.decode front with
    | error mismatch => rfl
    | ok header =>
      simp only [Except.mapError]
      cases connection.sync.checkProtocol header <;> rfl

end Looks

def Connection.still (name : String) (event : Option (Event Id)) (sync : Synchronizer)
    (bytes : Bytes) : Connection Id where
  region := { name, source := Source.mapped bytes }
  event := event
  sync := sync

theorem framePending_still (name : String) (event : Option (Event Id)) (sync : Synchronizer)
    (bytes : Bytes) :
    (Connection.still name event sync bytes).framePending.run = sync.pending bytes := by
  obtain ⟨inside, addressable⟩ := front_inside bytes.length
  have copy := copyOut_mapped (m := Id) inside addressable
  rw [copyOut_ofBytes_of_inside inside] at copy
  have sized : (Source.mapped bytes : Source Id).length = pure bytes.length := rfl
  rw [framePending_eq, Connection.still]
  simp only [sized, pure_bind, copy]
  exact sync.pending_front rfl

theorem framePending_foretells_extract (name : String) (event : Option (Event Id))
    (sync : Synchronizer) (bytes : Bytes) (mode : ExtractMode) :
    let connection := Connection.still name event sync bytes
    let pending := connection.framePending.run
    let attempt := (connection.sync.extract connection.region.source mode).run
    (∀ error, pending = .error error ↔
      attempt.result = .error error ∧ ∃ mismatch, error = .protocolMismatch mismatch) ∧
    (∀ extraction, attempt.result = .ok extraction →
      (pending = .ok true ↔ extraction.frames ≠ [] ∨ extraction.reset.isSome)) ∧
    (pending = .ok false →
      ∃ extraction, attempt.result = .ok extraction ∧ extraction.frames = [] ∧
        attempt.next.lastConsumed = sync.lastConsumed) := by
  intro connection pending attempt
  have checked : pending = sync.pending bytes := framePending_still name event sync bytes
  have ran : attempt = (sync.extract (Source.ofBytes bytes : Source Id) mode).run :=
    congrArg Id.run (extract_mapped sync mode)
  rw [checked, ran]
  exact ⟨pending_eq_error_iff sync bytes mode, fun _ => pending_eq_true_iff,
    extract_of_not_pending⟩

end FrameTap
