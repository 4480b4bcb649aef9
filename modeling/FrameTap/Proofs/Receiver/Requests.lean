import FrameTap.Proofs.Receiver.Outcomes

set_option autoImplicit false

namespace FrameTap

inductive Request
  | subscribe
  | close (id : Nat)
  | connect
  | disconnect
  | extract (mode : ExtractMode)
  | tryGetFrame
  | tryGetAllNewFrames
  | waitForFrame (timeout : Option Nanoseconds) (patience : Nat)
  | frameInfo
  deriving DecidableEq

inductive Reply
  | subscribed (id : Nat)
  | done
  | connected (answer : Except Error Unit)
  | frames (answer : Except Error (List Frame))
  | frame (answer : Except Error (Option Frame))
  | waited (answer : Option (Except Error Bool))
  | info (answer : Except Error Header)

def Reply.returned : Reply → List Frame
  | .frames (.ok taken) => taken
  | .frame (.ok frame?) => frame?.toList
  | _ => []

namespace Request

variable {m : Type → Type} [Monad m]

def serve (env : Surroundings m) : Request → ReceiverM m Reply
  | .subscribe => do
    let id ← Receiver.subscribe
    return .subscribed id
  | .close id => do
    modify (·.closeSubscriber id)
    return .done
  | .connect => do
    let answer ← Receiver.connect env
    return .connected answer
  | .disconnect => do
    Receiver.disconnect env
    return .done
  | .extract mode => do
    let answer ← Receiver.extract env mode
    return .frames answer
  | .tryGetFrame => do
    let answer ← Receiver.tryGetFrame env
    return .frame answer
  | .tryGetAllNewFrames => do
    let answer ← Receiver.tryGetAllNewFrames env
    return .frames answer
  | .waitForFrame timeout patience => do
    let answer ← Receiver.waitForFrame env timeout patience
    return .waited answer
  | .frameInfo => do
    let answer ← Receiver.frameInfo
    return .info answer

-- How a request takes frames, if it does, and how it returns them.
def taking? : Request → Option (ExtractMode × (Except Error (List Frame) → Reply))
  | .extract mode => some (mode, .frames)
  | .tryGetFrame => some (.latest, fun answer => .frame (answer.map (·.getLast?)))
  | .tryGetAllNewFrames => some (.allNew, .frames)
  | _ => none

end Request

variable {σ : Type}

structure Step (σ : Type) where
  request : Request
  before : Receiver (StateM σ)
  -- The machine that the request finds.
  world : σ
  reply : Reply
  after : Receiver (StateM σ)
  -- Announced meanwhile, oldest first.
  events : List ReceiverEvent

def history (steps : List (Step σ)) : List ReceiverEvent := steps.flatMap (·.events)

namespace Receiver

def listener : Subscriber := { id := 0, listening := true, inbox := [] }

-- What an action announces is what somebody hears who listens from its beginning to its end.
def overheard {α : Type} (receiver : Receiver (StateM σ)) (action : ReceiverM (StateM σ) α)
    (world : σ) : List ReceiverEvent :=
  (action (receiver.heardBy [listener]) world).1.2.subscribers.flatMap (·.inbox)

def step (env : Surroundings (StateM σ)) (receiver : Receiver (StateM σ)) (request : Request)
    (world : σ) : Step σ × σ :=
  let ((reply, after), reached) := request.serve env receiver world
  ({ request, before := receiver, world, reply, after
     events := receiver.overheard (request.serve env) world }, reached)

def steps (env : Surroundings (StateM σ)) :
    Receiver (StateM σ) → List Request → σ → List (Step σ)
  | _, [], _ => []
  | receiver, request :: rest, world =>
    let (step, reached) := receiver.step env request world
    step :: step.after.steps env rest reached

def afterSteps : Receiver (StateM σ) → List (Step σ) → Receiver (StateM σ)
  | receiver, [] => receiver
  | _, step :: rest => step.after.afterSteps rest

-- What the owner's requests come to. Subscribing and closing a channel are not the owner's.
inductive Effect (receiver : Receiver (StateM σ)) (world : σ) : Request → Outcome σ Reply → Prop
  | connect {outcome : Outcome σ (Except Error Unit)}
      (connecting : receiver.Connecting world outcome) :
      Effect receiver world .connect (outcome.map .connected)
  | disconnect {outcome : Outcome σ Unit} (disconnecting : receiver.Disconnecting world outcome) :
      Effect receiver world .disconnect (outcome.map fun _ => .done)
  | take {request : Request} {mode : ExtractMode} {view : Except Error (List Frame) → Reply}
      {outcome : Outcome σ (Except Error (List Frame))}
      (asks : request.taking? = some (mode, view))
      (extracting : receiver.Extracting mode world outcome) :
      Effect receiver world request (outcome.map view)
  | wait {timeout : Option Nanoseconds} {patience : Nat}
      {outcome : Outcome σ (Option (Except Error Bool))}
      (waiting : receiver.Waiting world outcome) :
      Effect receiver world (.waitForFrame timeout patience) (outcome.map .waited)
  | inspect {answer : Except Error Header} {reached : σ} :
      Effect receiver world .frameInfo ⟨.info answer, receiver, [], reached⟩

theorem serve_taking (env : Surroundings (StateM σ)) {request : Request} {mode : ExtractMode}
    {view : Except Error (List Frame) → Reply} (asks : request.taking? = some (mode, view)) :
    request.serve env =
      (extract env mode >>= fun answer => pure (view answer) : ReceiverM (StateM σ) Reply) := by
  cases request <;> cases asks
  case extract => rfl
  case tryGetAllNewFrames => rfl
  -- The frames are looked at only after the extraction, so this is one more view of its answer.
  case tryGetFrame =>
    funext receiver world
    rcases ran : extract env .latest receiver world with ⟨⟨answer, after⟩, reached⟩
    rw [bind_of_eq ran, Request.serve, tryGetFrame, bind_assoc, bind_of_eq ran]
    cases answer <;> rfl

theorem serve_taking_yields (env : Surroundings (StateM σ)) {request : Request}
    {mode : ExtractMode} {view : Except Error (List Frame) → Reply}
    (asks : request.taking? = some (mode, view)) (receiver : Receiver (StateM σ)) (world : σ) :
    ∃ outcome, Yields (request.serve env) receiver world (outcome.map view) ∧
      receiver.Extracting mode world outcome := by
  obtain ⟨outcome, ran, extracting⟩ := extract_yields env mode receiver world
  rw [serve_taking env asks]
  exact ⟨outcome, ran.map view, extracting⟩

theorem serve_yields (env : Surroundings (StateM σ)) {request : Request}
    (notSubscribing : request ≠ .subscribe) (notClosing : ∀ id, request ≠ .close id)
    (receiver : Receiver (StateM σ)) (world : σ) :
    ∃ outcome, Yields (request.serve env) receiver world outcome ∧
      receiver.Effect world request outcome := by
  cases asks : request.taking? with
  | some way =>
    obtain ⟨mode, view⟩ := way
    obtain ⟨outcome, ran, extracting⟩ := serve_taking_yields env asks receiver world
    exact ⟨_, ran, .take asks extracting⟩
  | none =>
    cases request with
    | subscribe => exact absurd rfl notSubscribing
    | close id => exact absurd rfl (notClosing id)
    | connect =>
      obtain ⟨outcome, ran, connecting⟩ := connect_yields env receiver world
      exact ⟨_, ran.map Reply.connected, .connect connecting⟩
    | disconnect =>
      obtain ⟨outcome, ran, disconnecting⟩ := disconnect_yields env receiver world
      exact ⟨_, ran.map fun _ => Reply.done, .disconnect disconnecting⟩
    | extract mode => cases asks
    | tryGetFrame => cases asks
    | tryGetAllNewFrames => cases asks
    | waitForFrame timeout patience =>
      obtain ⟨outcome, ran, waiting⟩ := waitForFrame_yields env timeout patience receiver world
      exact ⟨_, ran.map Reply.waited, .wait waiting⟩
    | frameInfo =>
      obtain ⟨answer, reached, ran⟩ := frameInfo_yields receiver world
      exact ⟨_, ran.map Reply.info, .inspect⟩

end Receiver

inductive Step.Served (step : Step σ) : Prop
  | subscribed (asked : step.request = .subscribe)
      (reply : step.reply = .subscribed step.before.subscriptions)
      (after : step.after = step.before.addSubscriber) (silent : step.events = [])
  | closed {id : Nat} (asked : step.request = .close id) (reply : step.reply = .done)
      (after : step.after = step.before.closeSubscriber id) (silent : step.events = [])
  | announced {outcome : Receiver.Outcome σ Reply}
      (effect : step.before.Effect step.world step.request outcome)
      (reply : step.reply = outcome.value)
      (after : step.after =
        outcome.receiver.heardBy (informed step.before.subscribers outcome.events))
      (events : step.events = outcome.events)

-- The steps of one life, each served and going on from where the one before ended.
def Served : Receiver (StateM σ) → List (Step σ) → Prop
  | _, [] => True
  | receiver, step :: rest => step.before = receiver ∧ step.Served ∧ Served step.after rest

theorem inbox_of_informed {subscriber : Subscriber} (listening : subscriber.listening = true)
    (events : List ReceiverEvent) :
    (informed [subscriber] events).flatMap (·.inbox) = subscriber.inbox ++ events := by
  induction events generalizing subscriber with
  | nil => simp
  | cons event rest ih =>
    have told : informed [subscriber] (event :: rest) = informed [subscriber.hear event] rest := by
      simp [informed, listening]
    have still : (subscriber.hear event).listening = true := listening
    rw [told, ih still]
    simp [Subscriber.hear]

namespace Receiver

theorem overheard_of_yields {α : Type} {action : ReceiverM (StateM σ) α}
    {receiver : Receiver (StateM σ)} {world : σ} {outcome : Outcome σ α}
    (ran : Yields action receiver world outcome) :
    receiver.overheard action world = outcome.events := by
  have listening : listener.listening = true := rfl
  rw [overheard, ran]
  exact inbox_of_informed listening outcome.events

variable (env : Surroundings (StateM σ)) (receiver : Receiver (StateM σ)) (world : σ)

theorem overheard_close (id : Nat) :
    receiver.overheard ((Request.close id).serve env) world = [] := by
  change List.flatMap (·.inbox)
    [if (0 : Nat) = id then { listener with listening := false } else listener] = []
  split <;> rfl

variable {env receiver world} in
theorem step_of_yields {request : Request} {outcome : Outcome σ Reply}
    (ran : Yields (request.serve env) receiver world outcome) :
    (receiver.step env request world).1 =
      { request, before := receiver, world
        reply := outcome.value
        after := outcome.receiver.heardBy (informed receiver.subscribers outcome.events)
        events := outcome.events } := by
  have heard := ran receiver.subscribers
  rw [heardBy_self] at heard
  rw [step, heard, overheard_of_yields ran]

theorem step_served (request : Request) : (receiver.step env request world).1.Served := by
  by_cases subscribing : request = .subscribe
  · subst subscribing
    exact .subscribed rfl rfl rfl rfl
  · by_cases closing : ∃ id, request = .close id
    · obtain ⟨id, rfl⟩ := closing
      exact .closed rfl rfl rfl (overheard_close env receiver world id)
    · obtain ⟨outcome, ran, effect⟩ :=
        serve_yields env subscribing (not_exists.mp closing) receiver world
      rw [step_of_yields ran]
      exact .announced effect rfl rfl rfl

theorem steps_cons (request : Request) (rest : List Request) :
    receiver.steps env (request :: rest) world =
      let (step, reached) := receiver.step env request world
      step :: step.after.steps env rest reached :=
  rfl

theorem steps_served (requests : List Request) :
    Served receiver (receiver.steps env requests world) := by
  induction requests generalizing receiver world with
  | nil => trivial
  | cons request rest ih =>
    rw [steps_cons]
    exact ⟨rfl, receiver.step_served env world request, ih _ _⟩

variable {env} in
-- What holds of every single step holds of those that a receiver makes one after the other.
theorem forall_steps {holds : Step σ → Prop}
    (single : ∀ receiver request world, holds (Receiver.step env receiver request world).1)
    (requests : List Request) : ∀ made ∈ receiver.steps env requests world, holds made := by
  induction requests generalizing receiver world with
  | nil => exact fun _ member => absurd member List.not_mem_nil
  | cons request rest ih =>
    rw [steps_cons]
    exact List.forall_mem_cons.mpr ⟨single receiver request world, ih _ _⟩

theorem afterSteps_append (front back : List (Step σ)) :
    receiver.afterSteps (front ++ back) = (receiver.afterSteps front).afterSteps back := by
  induction front generalizing receiver with
  | nil => rfl
  | cons step rest ih => exact ih _

end Receiver

theorem Served.split {receiver : Receiver (StateM σ)} {front back : List (Step σ)}
    (served : Served receiver (front ++ back)) :
    Served receiver front ∧ Served (receiver.afterSteps front) back := by
  induction front generalizing receiver with
  | nil => exact ⟨trivial, served⟩
  | cons step rest ih =>
    obtain ⟨before, did, later⟩ := served
    obtain ⟨front, back⟩ := ih later
    exact ⟨⟨before, did, front⟩, back⟩

end FrameTap
