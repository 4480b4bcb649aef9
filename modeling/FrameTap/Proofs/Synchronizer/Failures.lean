import FrameTap.Proofs.Synchronizer.Polling

set_option autoImplicit false

namespace FrameTap

variable {σ : Type}

theorem Synchronizer.next_eq_of_failed {sync : Synchronizer} {source : Source (StateM σ)}
    {mode : ExtractMode} {world : σ} {error : Error}
    (failed : (sync.extract source mode world).1.result = .error error) :
    (sync.extract source mode world).1.next = sync := by
  rcases run : sync.extract source mode world with ⟨attempt, after⟩
  rw [run] at failed
  rcases extract_cases sync source mode world run with ⟨-, -, same⟩ | ⟨-, -, _, succeeded, -⟩
  · exact same
  · cases failed.symm.trans succeeded

theorem Synchronizer.reset_of_poll {sync : Synchronizer} {source : Source (StateM σ)}
    {mode : ExtractMode} {world : σ} {header : Header} {extraction : Extraction}
    (scan : (sync.poll source mode world).1.scan = .ok header)
    (succeeded : (sync.poll source mode world).1.attempt.result = .ok extraction) :
    extraction.reset = (sync.select mode header).reset := by
  obtain ⟨decided, _, read, extracted⟩ := extracted_of_ok succeeded
  obtain rfl : decided = header := Except.ok.inj (read.symm.trans scan)
  rw [extracted.extraction_eq]
  rfl

-- What its source answers is part of an occasion, so that it does not hang on the extractions
-- made before.
structure Occasion (σ : Type) where
  source : Source (StateM σ)
  mode : ExtractMode
  world : σ

namespace Synchronizer

def meet (sync : Synchronizer) (occasion : Occasion σ) : Poll :=
  (sync.poll occasion.source occasion.mode occasion.world).1

def meetAll : Synchronizer → List (Occasion σ) → List Poll
  | _, [] => []
  | sync, occasion :: rest =>
    sync.meet occasion :: (sync.meet occasion).attempt.next.meetAll rest

end Synchronizer

namespace Poll

def succeeded (poll : Poll) : Bool :=
  match poll.attempt.result with
  | .ok _ => true
  | .error _ => false

theorem succeeded_eq_false {poll : Poll} :
    poll.succeeded = false ↔ ∃ error, poll.attempt.result = .error error := by
  cases outcome : poll.attempt.result <;> simp [succeeded, outcome]

end Poll

def successes (occasions : List (Occasion σ)) (polls : List Poll) : List (Occasion σ) :=
  ((occasions.zip polls).filter (·.2.succeeded)).map Prod.fst

namespace Synchronizer

variable {sync : Synchronizer}

theorem meet_next_of_failed {occasion : Occasion σ}
    (failed : (sync.meet occasion).succeeded = false) :
    (sync.meet occasion).attempt.next = sync := by
  obtain ⟨error, failed⟩ := Poll.succeeded_eq_false.mp failed
  exact next_eq_of_failed failed

variable (sync) in
theorem meetAll_successes (occasions : List (Occasion σ)) :
    sync.meetAll (successes occasions (sync.meetAll occasions)) =
      (sync.meetAll occasions).filter Poll.succeeded := by
  induction occasions generalizing sync with
  | nil => rfl
  | cons occasion rest ih =>
    have later := ih (sync.meet occasion).attempt.next
    cases outcome : (sync.meet occasion).succeeded with
    | false =>
      rw [meet_next_of_failed outcome] at later
      simpa [meetAll, successes, outcome, meet_next_of_failed outcome] using later
    | true => simpa [meetAll, successes, outcome] using later

variable (sync) in
theorem afterPolls_successes (occasions : List (Occasion σ)) :
    sync.afterPolls ((sync.meetAll occasions).filter Poll.succeeded) =
      sync.afterPolls (sync.meetAll occasions) := by
  induction occasions generalizing sync with
  | nil => rfl
  | cons occasion rest ih =>
    have later := ih (sync.meet occasion).attempt.next
    cases outcome : (sync.meet occasion).succeeded with
    | false =>
      rw [meet_next_of_failed outcome] at later
      simpa [meetAll, afterPolls, outcome, meet_next_of_failed outcome] using later
    | true => simpa [meetAll, afterPolls, outcome] using later

theorem meetAll_linked (occasions : List (Occasion σ)) :
    Linked sync (sync.meetAll occasions) := by
  induction occasions generalizing sync with
  | nil => trivial
  | cons occasion rest ih =>
    exact ⟨rfl, sync.poll_sound occasion.source occasion.mode occasion.world, ih⟩

theorem mem_meetAll {occasions : List (Occasion σ)} {poll : Poll}
    (member : poll ∈ sync.meetAll occasions) :
    ∃ occasion : Occasion σ, poll = poll.before.meet occasion := by
  induction occasions generalizing sync with
  | nil => simp [meetAll] at member
  | cons occasion rest ih =>
    rcases List.mem_cons.mp member with rfl | later
    · exact ⟨occasion, rfl⟩
    · exact ih later

theorem failed_next_of_mem_meetAll {occasions : List (Occasion σ)} {poll : Poll}
    (member : poll ∈ sync.meetAll occasions) (failed : poll.succeeded = false) :
    poll.attempt.next = poll.before := by
  obtain ⟨occasion, met⟩ := mem_meetAll member
  rw [met] at failed ⊢
  exact meet_next_of_failed failed

end Synchronizer

-- Extractions that fail all begin where the first began, and so does the one after them.
theorem Linked.before_eq_of_failing {sync : Synchronizer} {failing later : List Poll} {poll : Poll}
    (linked : Linked sync (failing ++ poll :: later))
    (unchanged : ∀ failed ∈ failing, failed.attempt.next = failed.before) :
    (∀ failed ∈ failing, failed.before = sync) ∧ poll.before = sync := by
  induction failing generalizing sync with
  | nil => exact ⟨by simp, linked.1⟩
  | cons first rest ih =>
    obtain ⟨before, -, linked⟩ := linked
    have same : first.attempt.next = sync := by
      rw [unchanged first List.mem_cons_self, before]
    rw [same] at linked
    obtain ⟨others, last⟩ := ih linked fun failed member =>
      unchanged failed (List.mem_cons_of_mem first member)
    exact ⟨by simpa [before] using others, last⟩

/-- A run without its failing extractions gives the same results and ends in the same state, and a
restart that they saw is reported by the one that succeeds after them. -/
theorem failures_leave_no_trace (sync : Synchronizer) (occasions : List (Occasion σ)) :
    let polls := sync.meetAll occasions
    (∀ poll ∈ polls, ∀ error, poll.attempt.result = .error error →
      poll.attempt.next.lastConsumed = poll.before.lastConsumed ∧
        poll.attempt.next.lastTotal = poll.before.lastTotal ∧
        poll.attempt.next = poll.before) ∧
    sync.meetAll (successes occasions polls) = polls.filter Poll.succeeded ∧
    sync.afterPolls (sync.meetAll (successes occasions polls)) = sync.afterPolls polls ∧
    (∀ earlier failing poll later, polls = earlier ++ (failing ++ poll :: later) →
      (∀ failed ∈ failing, failed.succeeded = false) →
      ∀ seen ∈ failing, ∀ shown reset, seen.scan = .ok shown →
        (seen.before.select seen.mode shown).reset = some reset →
      ∀ header observed extraction, poll.scan = .ok header →
        poll.before.restartObserved header = some observed →
        poll.attempt.result = .ok extraction →
        extraction.reset = some { lastConsumed := reset.lastConsumed, observed }) := by
  intro polls
  refine ⟨?_, sync.meetAll_successes occasions, ?_, ?_⟩
  · intro poll member error failed
    have same := Synchronizer.failed_next_of_mem_meetAll member
      (Poll.succeeded_eq_false.mpr ⟨error, failed⟩)
    simp [same]
  · rw [sync.meetAll_successes, sync.afterPolls_successes]
  · intro earlier failing poll later cut allFailed seen seenFailing shown reset _ observedReset
      header observed extraction scan restart succeeded
    have member : ∀ failed ∈ failing, failed ∈ polls := by
      intro failed inFailing
      simp [cut, inFailing]
    have pollMember : poll ∈ polls := by simp [cut]
    have linked : Linked sync polls := Synchronizer.meetAll_linked occasions
    rw [cut] at linked
    have unchanged : ∀ failed ∈ failing, failed.attempt.next = failed.before := by
      intro failed inFailing
      exact Synchronizer.failed_next_of_mem_meetAll (member failed inFailing)
        (allFailed failed inFailing)
    obtain ⟨seenBefore, before⟩ :=
      (Synchronizer.linked_append linked).2.before_eq_of_failing unchanged
    obtain ⟨occasion, met⟩ := Synchronizer.mem_meetAll pollMember
    rw [met] at scan succeeded
    rw [Synchronizer.reset_of_poll scan succeeded, Synchronizer.select_reset, restart]
    rw [seenBefore seen seenFailing, Synchronizer.select_reset] at observedReset
    obtain ⟨_, -, rfl⟩ := Option.map_eq_some_iff.mp observedReset
    rw [before]
    rfl

end FrameTap
