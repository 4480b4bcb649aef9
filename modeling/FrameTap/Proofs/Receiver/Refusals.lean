import FrameTap.Proofs.Receiver.Requests
import FrameTap.Proofs.Synchronizer.Failures

set_option autoImplicit false

namespace FrameTap

variable {σ : Type}

namespace Step

structure Silent (step : Step σ) : Prop where
  events : step.events = []
  after : step.after = step.before

/-- The error is announced, and nothing but the inboxes of those who listen changes. -/
structure Reports (step : Step σ) (error : Error) : Prop where
  events : step.events = [.error error.message]
  after : step.after =
    step.before.heardBy (informed step.before.subscribers [.error error.message])

end Step

theorem Request.view_ok_ne_error {request : Request} {mode : ExtractMode}
    {view : Except Error (List Frame) → Reply} (asks : request.taking? = some (mode, view))
    {frames : List Frame} {error : Error} : view (.ok frames) ≠ view (.error error) := by
  cases request <;> cases asks <;> nofun

namespace Receiver

variable {env : Surroundings (StateM σ)} {receiver : Receiver (StateM σ)} {world : σ}

theorem silent_of_yields {request : Request} {value : Reply} {reached : σ}
    (ran : Yields (request.serve env) receiver world ⟨value, receiver, [], reached⟩) :
    (receiver.step env request world).1.reply = value ∧
      (receiver.step env request world).1.Silent := by
  rw [step_of_yields ran]
  exact ⟨rfl, rfl, rfl⟩

theorem reports_of_yields {request : Request} {value : Reply} {error : Error} {reached : σ}
    (ran : Yields (request.serve env) receiver world
      ⟨value, receiver, [.error error.message], reached⟩) :
    (receiver.step env request world).1.reply = value ∧
      (receiver.step env request world).1.Reports error := by
  rw [step_of_yields ran]
  exact ⟨rfl, rfl, rfl⟩

theorem advanced_self {connection : Connection (StateM σ)}
    (linked : receiver.connection = some connection) :
    receiver.advanced connection connection.sync = receiver := by
  rw [advanced, ← linked]

section Taking

variable {request : Request} {mode : ExtractMode} {view : Except Error (List Frame) → Reply}
  (asks : request.taking? = some (mode, view))

include asks

theorem taking_apart (apart : receiver.connection = none) :
    (receiver.step env request world).1.reply = view (.error .notConnected) ∧
      (receiver.step env request world).1.Silent := by
  obtain ⟨outcome, ran, extracting⟩ := serve_taking_yields env asks receiver world
  cases extracting with
  | apart _ => exact silent_of_yields ran
  | failed linked => cases apart.symm.trans linked
  | delivered linked => cases apart.symm.trans linked

theorem apart_of_taking_refused {error : Error}
    (refused : (receiver.step env request world).1.reply = view (.error error)) :
    receiver.connection = none := by
  obtain ⟨outcome, ran, extracting⟩ := serve_taking_yields env asks receiver world
  rw [step_of_yields ran] at refused
  cases extracting with
  | apart apart => exact apart
  | failed _ => exact absurd refused (Request.view_ok_ne_error asks)
  | delivered _ => exact absurd refused (Request.view_ok_ne_error asks)

theorem taking_failed {connection : Connection (StateM σ)} {error : Error}
    (linked : receiver.connection = some connection)
    (failed : (connection.sync.extract connection.region.source mode world).1.result =
      .error error) :
    (receiver.step env request world).1.reply = view (.ok []) ∧
      (receiver.step env request world).1.Reports error := by
  obtain ⟨outcome, ran, extracting⟩ := serve_taking_yields env asks receiver world
  cases extracting with
  | apart apart => cases apart.symm.trans linked
  | failed found made result =>
    cases linked.symm.trans found
    subst made
    obtain rfl := Except.error.inj (failed.symm.trans result)
    -- The extraction hands back the synchronizer that it began with.
    have same : (connection.sync.poll connection.region.source mode world).1.attempt.next =
        connection.sync :=
      Synchronizer.next_eq_of_failed failed
    rw [same, advanced_self linked] at ran
    exact reports_of_yields ran
  | delivered found made result =>
    cases linked.symm.trans found
    subst made
    cases failed.symm.trans result

end Taking

section Waiting

variable {timeout : Option Nanoseconds} {patience : Nat}

theorem waiting_apart (apart : receiver.connection = none) :
    (receiver.step env (.waitForFrame timeout patience) world).1.reply =
        .waited (some (.error .notConnected)) ∧
      (receiver.step env (.waitForFrame timeout patience) world).1.Silent := by
  obtain ⟨outcome, ran, waiting⟩ := waitForFrame_yields env timeout patience receiver world
  have unlinked := isConnected_eq_false apart
  cases waiting with
  | apart _ => exact silent_of_yields (ran.map Reply.waited)
  | failed linked => cases unlinked.symm.trans linked
  | answered linked => cases unlinked.symm.trans linked

theorem apart_of_waiting_refused {error : Error}
    (refused : (receiver.step env (.waitForFrame timeout patience) world).1.reply =
      .waited (some (.error error))) :
    receiver.connection = none := by
  obtain ⟨outcome, ran, waiting⟩ := waitForFrame_yields env timeout patience receiver world
  have made : Yields ((Request.waitForFrame timeout patience).serve env) receiver world
      (outcome.map .waited) := ran.map Reply.waited
  rw [step_of_yields made] at refused
  cases waiting with
  | apart apart => exact apart
  | failed _ => cases refused
  | answered _ sound => exact absurd (Reply.waited.inj refused) (sound error)

theorem waiting_failed {connection : Connection (StateM σ)} {error : Error}
    (linked : receiver.connection = some connection)
    (failed : (connection.wait env timeout receiver.settings.pollInterval patience world).1 =
      some (.error error)) :
    (receiver.step env (.waitForFrame timeout patience) world).1.reply =
        .waited (some (.ok false)) ∧
      (receiver.step env (.waitForFrame timeout patience) world).1.Reports error := by
  obtain ⟨told, ran⟩ := waitForFrame_of_failed linked (Prod.ext failed rfl)
  exact reports_of_yields (ran.map Reply.waited)

end Waiting

section Connecting

theorem connecting_linked (connected : receiver.isConnected = true) :
    (receiver.step env .connect world).1.reply = .connected (.ok ()) ∧
      (receiver.step env .connect world).1.Silent :=
  silent_of_yields ((connect_of_connected env world connected).map Reply.connected)

theorem connecting_refused (apart : receiver.connection = none) {error : Error}
    (refused : (openConnection env receiver.settings world).1 = .error error) :
    (receiver.step env .connect world).1.reply = .connected (.error error) ∧
      (receiver.step env .connect world).1.Reports error := by
  obtain ⟨told, ran⟩ := connect_of_refused apart (Prod.ext refused rfl)
  exact reports_of_yields (ran.map Reply.connected)

theorem connecting_opened (apart : receiver.connection = none)
    {opened : Connection (StateM σ) × Header}
    (found : (openConnection env receiver.settings world).1 = .ok opened) :
    (receiver.step env .connect world).1.reply = .connected (.ok ()) := by
  obtain ⟨now, told, ran⟩ := connect_of_opened apart (Prod.ext found rfl)
  have made : Yields (Request.connect.serve env) receiver world _ := ran.map Reply.connected
  rw [step_of_yields made]
  rfl

-- A connect is refused with the error that opening ended with, and with no other.
theorem connecting_refused_iff {error : Error} :
    (receiver.step env .connect world).1.reply = .connected (.error error) ↔
      receiver.connection = none ∧
        (openConnection env receiver.settings world).1 = .error error := by
  constructor
  · intro refused
    cases linked : receiver.connection with
    | some connection =>
      cases refused.symm.trans (connecting_linked (isConnected_eq_true linked)).1
    | none =>
      cases answer : (openConnection env receiver.settings world).1 with
      | error fault =>
        cases refused.symm.trans (connecting_refused linked answer).1
        exact ⟨rfl, rfl⟩
      | ok opened => cases refused.symm.trans (connecting_opened linked answer)
  · rintro ⟨apart, refused⟩
    exact (connecting_refused apart refused).1

end Connecting

end Receiver

/-- Without a connection, requests for frames and waits are refused. With one, those that fail yield
nothing and are reported. -/
theorem failures_leave_receiver (env : Surroundings (StateM σ)) (receiver : Receiver (StateM σ))
    (requests : List Request) (world : σ) :
    ∀ step ∈ receiver.steps env requests world,
      (∀ mode view, step.request.taking? = some (mode, view) →
        ((∃ error, step.reply = view (.error error)) ↔ step.before.connection = none) ∧
        (step.before.connection = none →
          step.reply = view (.error .notConnected) ∧ step.Silent) ∧
        ∀ connection error, step.before.connection = some connection →
          (connection.sync.extract connection.region.source mode step.world).1.result =
            .error error →
          step.reply = view (.ok []) ∧ step.Reports error) ∧
      (∀ timeout patience, step.request = .waitForFrame timeout patience →
        ((∃ error, step.reply = .waited (some (.error error))) ↔
          step.before.connection = none) ∧
        (step.before.connection = none →
          step.reply = .waited (some (.error .notConnected)) ∧ step.Silent) ∧
        ∀ connection error, step.before.connection = some connection →
          (connection.wait env timeout step.before.settings.pollInterval patience step.world).1 =
            some (.error error) →
          step.reply = .waited (some (.ok false)) ∧ step.Reports error) ∧
      (step.request = .connect →
        (∀ error, step.reply = .connected (.error error) ↔ step.before.connection = none ∧
          (Receiver.openConnection env step.before.settings step.world).1 = .error error) ∧
        (∀ error, step.reply = .connected (.error error) →
          step.Reports error ∧ step.after.connection = none) ∧
        (step.before.isConnected = true → step.reply = .connected (.ok ()) ∧ step.Silent)) := by
  refine receiver.forall_steps world (fun receiver request world => ?_) requests
  refine ⟨fun mode view asks => ?_, fun timeout patience asks => ?_, fun asks => ?_⟩
  · refine ⟨⟨?_, fun apart => ⟨.notConnected, (Receiver.taking_apart asks apart).1⟩⟩,
      Receiver.taking_apart asks, fun connection error linked failed =>
        Receiver.taking_failed asks linked failed⟩
    rintro ⟨error, refused⟩
    exact Receiver.apart_of_taking_refused asks refused
  · obtain rfl : request = .waitForFrame timeout patience := asks
    refine ⟨⟨?_, fun apart => ⟨.notConnected, (Receiver.waiting_apart apart).1⟩⟩,
      Receiver.waiting_apart, fun connection error linked failed =>
        Receiver.waiting_failed linked failed⟩
    rintro ⟨error, refused⟩
    exact Receiver.apart_of_waiting_refused refused
  · obtain rfl : request = .connect := asks
    refine ⟨fun error => Receiver.connecting_refused_iff, fun error refused => ?_,
      Receiver.connecting_linked⟩
    obtain ⟨apart, failed⟩ := Receiver.connecting_refused_iff.mp refused
    have reports := (Receiver.connecting_refused apart failed).2
    refine ⟨reports, ?_⟩
    rw [reports.after]
    exact apart

-- No region can be opened.
def barrenWorld : Surroundings (StateM Unit) where
  openRegion _ := pure (.error .notFound)
  openSemaphore _ := pure (.error .notFound)
  now := pure 0
  wallClock := pure (WallTime.ofNanoseconds 0)
  sleep _ := pure ()
  log _ := pure ()

def unlinked : Receiver (StateM Unit) := Receiver.new {} 0

-- Its region shows no header any more.
def faded : Connection (StateM Unit) where
  region := { name := "faded", source := Source.ofBytes (List.replicate 52 0) }
  event := none
  sync := Synchronizer.start .single

def unreadable : Receiver (StateM Unit) := { unlinked with connection := some faded }

theorem exists_error_of_toOption {α : Type} {answer : Except Error α}
    (nothing : answer.toOption.isNone = true) : ∃ error, answer = .error error := by
  cases answer with
  | error error => exact ⟨error, rfl⟩
  | ok value => cases nothing

theorem failures_leave_receiver_barrenWorld :
    let served := fun (receiver : Receiver (StateM Unit)) request =>
      (receiver.step barrenWorld request ()).1
    (served unlinked .tryGetFrame).reply = .frame (.error .notConnected) ∧
      (served unlinked .tryGetFrame).Silent ∧
      (∃ error, (served unlinked .connect).reply = .connected (.error error) ∧
        (served unlinked .connect).Reports error) ∧
      (served unreadable .connect).reply = .connected (.ok ()) ∧
      (served unreadable .connect).Silent ∧
      ∃ error, (served unreadable .tryGetFrame).reply = .frame (.ok none) ∧
        (served unreadable .tryGetFrame).Reports error := by
  intro served
  have only : ∀ receiver request,
      served receiver request ∈ receiver.steps barrenWorld [request] () :=
    fun _ _ => List.mem_cons_self
  have leaves := fun receiver request =>
    failures_leave_receiver barrenWorld receiver [request] () _ (only receiver request)
  obtain ⟨error, absent⟩ :
      ∃ error, (Receiver.openConnection barrenWorld unlinked.settings ()).1 = .error error :=
    exists_error_of_toOption (by decide +kernel)
  obtain ⟨fault, broken⟩ :
      ∃ fault, (faded.sync.extract faded.region.source .latest ()).1.result = .error fault :=
    exists_error_of_toOption (by decide +kernel)
  obtain ⟨refused, silent⟩ := ((leaves unlinked .tryGetFrame).1 .latest _ rfl).2.1 rfl
  obtain ⟨refuses, reports, -⟩ := (leaves unlinked .connect).2.2 rfl
  obtain ⟨accepted, still⟩ := ((leaves unreadable .connect).2.2 rfl).2.2 rfl
  have denied := (refuses error).mpr ⟨rfl, absent⟩
  have failed := ((leaves unreadable .tryGetFrame).1 .latest _ rfl).2.2 faded fault rfl broken
  exact ⟨refused, silent, ⟨error, denied, (reports error denied).1⟩, accepted, still, fault, failed⟩

end FrameTap
