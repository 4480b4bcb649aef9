import FrameTap.Proofs.Receiver.Requests

set_option autoImplicit false

namespace FrameTap

section Subscribers

variable {σ : Type} {receiver : Receiver (StateM σ)} {world : σ} {id : Nat}
  {heard : List ReceiverEvent}

def Subscriber.listensAs (id : Nat) (subscriber : Subscriber) : Bool :=
  subscriber.id = id ∧ subscriber.listening

@[simp] theorem Subscriber.listensAs_hear (event : ReceiverEvent) (subscriber : Subscriber) :
    (subscriber.hear event).listensAs id = subscriber.listensAs id :=
  rfl

theorem Subscriber.listening_and_listensAs (subscriber : Subscriber) :
    (subscriber.listening && subscriber.listensAs id) = subscriber.listensAs id := by
  cases listening : subscriber.listening <;> simp [listensAs, listening]

namespace Receiver

theorem inbox?_eq (id : Nat) :
    receiver.inbox? id = (receiver.subscribers.find? (·.listensAs id)).map (·.inbox) :=
  rfl

theorem inbox?_heard (subscribers : List Subscriber) (event : ReceiverEvent) :
    (receiver.heardBy ((subscribers.filter (·.listening)).map (·.hear event))).inbox? id =
      ((receiver.heardBy subscribers).inbox? id).map (· ++ [event]) := by
  simp only [inbox?_eq, heardBy_subscribers, List.find?_map, List.find?_filter, Option.map_map,
    Function.comp_def, Subscriber.listensAs_hear, Bool.decide_and, Bool.decide_eq_true,
    Subscriber.listening_and_listensAs]
  rfl

theorem inbox?_informed (subscribers : List Subscriber) (events : List ReceiverEvent) :
    (receiver.heardBy (informed subscribers events)).inbox? id =
      ((receiver.heardBy subscribers).inbox? id).map (· ++ events) := by
  induction events generalizing subscribers with
  | nil => simp
  | cons event rest ih =>
    change (receiver.heardBy (informed (_ : List Subscriber) rest)).inbox? id = _
    rw [ih, inbox?_heard, Option.map_map]
    simp [Function.comp_def]

theorem inbox?_closeSubscriber {other : Nat} (apart : other ≠ id) :
    (receiver.closeSubscriber other).inbox? id = receiver.inbox? id := by
  let close : Subscriber → Subscriber := fun subscriber =>
    if subscriber.id = other then { subscriber with listening := false } else subscriber
  have wanted : Subscriber.listensAs id ∘ close = Subscriber.listensAs id := by
    funext subscriber
    by_cases same : subscriber.id = other <;> simp [Subscriber.listensAs, close, same, apart]
  have kept : Subscriber.inbox ∘ close = Subscriber.inbox := by
    funext subscriber
    by_cases same : subscriber.id = other <;> simp [close, same]
  change ((receiver.subscribers.map close).find? (Subscriber.listensAs id)).map Subscriber.inbox = _
  rw [List.find?_map, wanted, Option.map_map, kept]
  rfl

theorem inbox?_addSubscriber (present : receiver.inbox? id = some heard) :
    receiver.addSubscriber.inbox? id = some heard := by
  obtain ⟨subscriber, found, rfl⟩ := Option.map_eq_some_iff.mp (inbox?_eq id ▸ present)
  simp [inbox?_eq, addSubscriber, found]

def Numbered (receiver : Receiver (StateM σ)) : Prop :=
  ∀ subscriber ∈ receiver.subscribers, subscriber.id < receiver.subscriptions

theorem Numbered.inbox?_new (numbered : receiver.Numbered) :
    receiver.addSubscriber.inbox? receiver.subscriptions = some [] := by
  have unused : receiver.subscribers.find? (·.listensAs receiver.subscriptions) = none := by
    rw [List.find?_eq_none]
    intro subscriber member
    simp [Subscriber.listensAs, Nat.ne_of_lt (numbered subscriber member)]
  have new : Subscriber.listensAs receiver.subscriptions
      { id := receiver.subscriptions, listening := true, inbox := [] } = true := by
    simp [Subscriber.listensAs]
  simp [inbox?_eq, addSubscriber, unused, new]

end Receiver

theorem exists_of_mem_informed {subscribers : List Subscriber} {events : List ReceiverEvent}
    {subscriber : Subscriber} (member : subscriber ∈ informed subscribers events) :
    ∃ origin ∈ subscribers, origin.id = subscriber.id := by
  induction events generalizing subscribers with
  | nil => exact ⟨subscriber, member, rfl⟩
  | cons event rest ih =>
    obtain ⟨told, present, same⟩ := ih member
    obtain ⟨origin, listening, rfl⟩ := List.mem_map.mp present
    exact ⟨origin, (List.mem_filter.mp listening).1, same⟩

theorem Receiver.Effect.subscriptions_eq {request : Request} {outcome : Outcome σ Reply}
    (effect : receiver.Effect world request outcome) :
    outcome.receiver.subscriptions = receiver.subscriptions := by
  cases effect with
  | connect connecting => cases connecting <;> rfl
  | disconnect disconnecting => cases disconnecting <;> rfl
  | take _ extracting =>
    cases extracting with
    | apart _ => rfl
    | failed _ _ _ => rfl
    | delivered _ _ _ =>
      dsimp only [Outcome.map, taken]
      split <;> rfl
  | wait waiting => cases waiting <;> rfl
  | inspect => rfl

theorem Step.Served.numbered {step : Step σ} (served : step.Served)
    (numbered : step.before.Numbered) : step.after.Numbered := by
  cases served with
  | subscribed _ _ after _ =>
    rw [after]
    intro subscriber member
    rcases List.mem_append.mp member with earlier | new
    · exact Nat.lt_succ_of_lt (numbered subscriber earlier)
    · rw [List.mem_singleton.mp new]
      exact Nat.lt_succ_self _
  | closed _ _ after _ =>
    rw [after]
    intro subscriber member
    obtain ⟨origin, present, rfl⟩ := List.mem_map.mp member
    have below := numbered origin present
    split <;> exact below
  | announced effect _ after _ =>
    rw [after]
    intro subscriber member
    obtain ⟨origin, present, same⟩ := exists_of_mem_informed member
    rw [← same, Receiver.heardBy_subscriptions, effect.subscriptions_eq]
    exact numbered origin present

theorem Served.numbered {steps : List (Step σ)} (served : Served receiver steps)
    (numbered : receiver.Numbered) : (receiver.afterSteps steps).Numbered := by
  induction steps generalizing receiver with
  | nil => exact numbered
  | cons step rest ih =>
    obtain ⟨rfl, did, later⟩ := served
    exact ih later (did.numbered numbered)

theorem Step.Served.inbox? {step : Step σ} (served : step.Served)
    (present : step.before.inbox? id = some heard) (open? : step.request ≠ .close id) :
    step.after.inbox? id = some (heard ++ step.events) := by
  cases served with
  | subscribed _ _ after silent =>
    rw [after, silent, List.append_nil]
    exact Receiver.inbox?_addSubscriber present
  | @closed other asked _ after silent =>
    have apart : other ≠ id := by
      rintro rfl
      exact open? asked
    rw [after, silent, List.append_nil, Receiver.inbox?_closeSubscriber apart, present]
  | announced _ _ after events =>
    rw [after, events, Receiver.inbox?_informed]
    change (step.before.inbox? id).map _ = _
    rw [present]
    rfl

theorem Receiver.Effect.not_subscribed {request : Request} {outcome : Outcome σ Reply}
    (effect : receiver.Effect world request outcome) : outcome.value ≠ .subscribed id := by
  cases effect with
  | take asks _ => cases request <;> cases asks <;> exact nofun
  | _ => exact nofun

theorem Step.Served.inbox?_new {step : Step σ} (served : step.Served)
    (numbered : step.before.Numbered) (reply : step.reply = .subscribed id) :
    step.after.inbox? id = some [] := by
  cases served with
  | subscribed _ given after _ =>
    cases given.symm.trans reply
    rw [after]
    exact numbered.inbox?_new
  | closed _ given _ _ => cases given.symm.trans reply
  | announced effect given _ _ => exact absurd (given.symm.trans reply) effect.not_subscribed

theorem Served.inbox? {steps : List (Step σ)} (served : Served receiver steps)
    (present : receiver.inbox? id = some heard) (open? : ∀ step ∈ steps, step.request ≠ .close id) :
    (receiver.afterSteps steps).inbox? id = some (heard ++ history steps) := by
  induction steps generalizing receiver heard with
  | nil => simpa [history, Receiver.afterSteps] using present
  | cons step rest ih =>
    obtain ⟨rfl, did, later⟩ := served
    obtain ⟨first, others⟩ := List.forall_mem_cons.mp open?
    rw [show history (step :: rest) = step.events ++ history rest from List.flatMap_cons,
      ← List.append_assoc]
    exact ih later (did.inbox? present first) others

end Subscribers

end FrameTap
