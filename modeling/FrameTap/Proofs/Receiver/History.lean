import FrameTap.Proofs.Receiver.Subscribers

set_option autoImplicit false

namespace FrameTap

def ReceiverEvent.link? : ReceiverEvent → Option Bool
  | .connected .. => some true
  | .disconnected => some false
  | _ => none

-- The changes of the connection: true where it is made and false where it ends.
def links (events : List ReceiverEvent) : List Bool := events.filterMap (·.link?)

-- Events that turn a receiver that is connected, or is not, into one that is, or is not.
inductive Follows : Bool → List ReceiverEvent → Bool → Prop
  | nil {linked : Bool} : Follows linked [] linked
  | connected {width height : UInt32} {protocol : Protocol} {polling final : Bool}
      {rest : List ReceiverEvent} (later : Follows true rest final) :
      Follows false (.connected width height protocol polling :: rest) final
  | disconnected {final : Bool} {rest : List ReceiverEvent} (later : Follows false rest final) :
      Follows true (.disconnected :: rest) final
  | session {event : ReceiverEvent} {final : Bool} {rest : List ReceiverEvent}
      (known : event.ofSession = true) (later : Follows true rest final) :
      Follows true (event :: rest) final
  | error {message : String} {linked final : Bool} {rest : List ReceiverEvent}
      (later : Follows linked rest final) : Follows linked (.error message :: rest) final

namespace Follows

variable {linked middle final : Bool} {front back events : List ReceiverEvent}

theorem append (early : Follows linked front middle) (late : Follows middle back final) :
    Follows linked (front ++ back) final := by
  induction early with
  | nil => exact late
  | connected _ ih => exact .connected (ih late)
  | disconnected _ ih => exact .disconnected (ih late)
  | session known _ ih => exact .session known (ih late)
  | error _ ih => exact .error (ih late)

theorem split (whole : Follows linked (front ++ back) final) :
    ∃ middle, Follows linked front middle ∧ Follows middle back final := by
  induction front generalizing linked with
  | nil => exact ⟨linked, .nil, whole⟩
  | cons event rest ih =>
    cases whole with
    | connected later =>
      obtain ⟨middle, early, late⟩ := ih later
      exact ⟨middle, .connected early, late⟩
    | disconnected later =>
      obtain ⟨middle, early, late⟩ := ih later
      exact ⟨middle, .disconnected early, late⟩
    | session known later =>
      obtain ⟨middle, early, late⟩ := ih later
      exact ⟨middle, .session known early, late⟩
    | error later =>
      obtain ⟨middle, early, late⟩ := ih later
      exact ⟨middle, .error early, late⟩

theorem of_session (known : ∀ event ∈ events, event.ofSession = true) :
    Follows true events true := by
  induction events with
  | nil => exact .nil
  | cons event rest ih =>
    obtain ⟨first, others⟩ := List.forall_mem_cons.mp known
    exact .session first (ih others)

@[simp] theorem links_connected {width height : UInt32} {protocol : Protocol} {polling : Bool} :
    links (.connected width height protocol polling :: events) = true :: links events :=
  rfl

@[simp] theorem links_disconnected : links (.disconnected :: events) = false :: links events := rfl

theorem links_of_session {event : ReceiverEvent} (known : event.ofSession = true)
    (rest : List ReceiverEvent) : links (event :: rest) = links rest := by
  cases event <;> simp_all [links, ReceiverEvent.link?, ReceiverEvent.ofSession]

theorem links_eq (whole : Follows linked events final) :
    (linked :: links events).IsChain (· ≠ ·) ∧ (links events).getLastD linked = final := by
  induction whole with
  | nil => exact ⟨.singleton _, rfl⟩
  | connected _ ih =>
    rw [links_connected, List.getLastD_cons]
    exact ⟨.cons_cons (by simp) ih.1, ih.2⟩
  | disconnected _ ih =>
    rw [links_disconnected, List.getLastD_cons]
    exact ⟨.cons_cons (by simp) ih.1, ih.2⟩
  | session known _ ih => rwa [links_of_session known]
  | error _ ih => exact ih

theorem linked_of_session {event : ReceiverEvent} (known : event.ofSession = true)
    (whole : Follows linked (event :: events) final) : linked = true := by
  cases whole <;> simp_all [ReceiverEvent.ofSession]

end Follows

section Grammar

variable {σ : Type} {receiver : Receiver (StateM σ)} {world : σ}

@[simp] theorem Receiver.isConnected_taken (now : Nanoseconds) (extraction : Extraction) :
    (receiver.taken now extraction).isConnected = receiver.isConnected := by
  unfold taken
  split <;> rfl

@[simp] theorem Receiver.isConnected_advanced (connection : Connection (StateM σ))
    (sync : Synchronizer) : (receiver.advanced connection sync).isConnected = true :=
  rfl

theorem delivered_of_session (reset : Option SessionReset) (frames : List Frame) :
    ∀ event ∈ Receiver.resetEvents reset ++ Receiver.frameEvents frames,
      event.ofSession = true := by
  intro event member
  rcases List.mem_append.mp member with early | late
  · obtain ⟨_, -, rfl⟩ := List.mem_map.mp early
    rfl
  · obtain ⟨_, -, rfl⟩ := List.mem_map.mp late
    rfl

theorem Receiver.Effect.follows {request : Request} {outcome : Outcome σ Reply}
    (effect : receiver.Effect world request outcome) :
    Follows receiver.isConnected outcome.events outcome.receiver.isConnected := by
  cases effect with
  | connect connecting =>
    cases connecting with
    | already _ => exact .nil
    | refused _ => exact .error .nil
    | established apart _ =>
      rw [isConnected_eq_false apart]
      exact .connected .nil
  | disconnect disconnecting =>
    cases disconnecting with
    | already _ => exact .nil
    | released linked =>
      rw [isConnected_eq_true linked]
      exact .disconnected .nil
  | take _ extracting =>
    cases extracting with
    | apart _ => exact .nil
    | failed linked =>
      rw [isConnected_eq_true linked]
      exact .error .nil
    | delivered linked =>
      rw [isConnected_eq_true linked]
      simpa [Outcome.map] using Follows.of_session (delivered_of_session _ _)
  | wait waiting =>
    cases waiting with
    | apart _ => exact .nil
    | failed _ => exact .error .nil
    | answered _ _ => exact .nil
  | inspect => exact .nil

theorem Step.Served.follows {step : Step σ} (served : step.Served) :
    Follows step.before.isConnected step.events step.after.isConnected := by
  cases served with
  | subscribed _ _ after silent =>
    rw [after, silent]
    exact .nil
  | closed _ _ after silent =>
    rw [after, silent]
    exact .nil
  | announced effect _ after events =>
    rw [after, events]
    exact effect.follows

theorem Served.follows {steps : List (Step σ)} (served : Served receiver steps) :
    Follows receiver.isConnected (history steps) (receiver.afterSteps steps).isConnected := by
  induction steps generalizing receiver with
  | nil => exact .nil
  | cons step rest ih =>
    obtain ⟨rfl, did, later⟩ := served
    exact did.follows.append (ih later)

theorem Served.served {steps : List (Step σ)} (served : Served receiver steps) :
    ∀ step ∈ steps, step.Served := by
  induction steps generalizing receiver with
  | nil => simp
  | cons first rest ih =>
    obtain ⟨-, did, later⟩ := served
    exact List.forall_mem_cons.mpr ⟨did, ih later⟩

theorem Receiver.Effect.refused {request : Request} {outcome : Outcome σ Reply} {error : Error}
    (effect : receiver.Effect world request outcome)
    (failed : outcome.value = .connected (.error error)) :
    outcome.events = [.error error.message] ∧ outcome.receiver = receiver ∧
      receiver.isConnected = false := by
  cases effect with
  | connect connecting =>
    cases connecting with
    | already _ => cases failed
    | refused apart =>
      cases failed
      exact ⟨rfl, rfl, isConnected_eq_false apart⟩
    | established _ _ => cases failed
  | disconnect _ => cases failed
  | take asks _ =>
    -- No request that takes frames answers like this.
    cases request <;> cases asks <;> cases failed
  | wait _ => cases failed
  | inspect => cases failed

theorem Step.Served.refused {step : Step σ} (served : step.Served) {error : Error}
    (failed : step.reply = .connected (.error error)) :
    step.events = [.error error.message] ∧ step.before.isConnected = false ∧
      step.after.isConnected = false := by
  cases served with
  | subscribed _ reply => cases reply.symm.trans failed
  | closed _ reply => cases reply.symm.trans failed
  | announced effect reply after events =>
    obtain ⟨only, same, apart⟩ := effect.refused (reply.symm.trans failed)
    rw [after, events, only, same]
    exact ⟨rfl, apart, apart⟩

theorem Step.Served.dropped {step : Step σ} (served : step.Served)
    (asked : step.request = .disconnect) : step.after.isConnected = false := by
  cases served with
  | subscribed other => cases asked.symm.trans other
  | closed other => cases asked.symm.trans other
  | announced effect _ after _ =>
    rw [after]
    rw [asked] at effect
    cases effect with
    | disconnect disconnecting =>
      cases disconnecting with
      | already apart => exact Receiver.isConnected_eq_false apart
      | released _ => rfl
    | take asks => cases asks

end Grammar

theorem getLastD_false {links : List Bool} :
    links.getLastD false = true ↔ links.getLast? = some true := by
  rw [List.getLastD_eq_getLast?]
  cases links.getLast? <;> simp

/-- Connections come and go in turn, frames and resets are announced while there is one, and whoever
listens has heard all that was announced since it subscribed. -/
theorem history_well_formed {σ : Type} (env : Surroundings (StateM σ))
    (settings : ReceiverSettings) (created : Nanoseconds) (requests : List Request) (world : σ) :
    let fresh : Receiver (StateM σ) := Receiver.new settings created
    let steps := fresh.steps env requests world
    (links (history steps)).IsChain (· ≠ ·) ∧
    (links (history steps)).head? ≠ some false ∧
    (∀ before event after, history steps = before ++ event :: after → event.ofSession = true →
      (links before).getLast? = some true) ∧
    (∀ earlier later, steps = earlier ++ later →
      ((fresh.afterSteps earlier).isConnected = true ↔
        (links (history earlier)).getLast? = some true)) ∧
    (∀ step ∈ steps, ∀ error, step.reply = .connected (.error error) →
      step.events = [.error error.message] ∧ step.after.isConnected = false) ∧
    (∀ earlier drop later, steps = earlier ++ drop :: later → drop.request = .disconnect →
      (links (history (earlier ++ [drop]))).getLast? ≠ some true) ∧
    (∀ earlier step middle later id, steps = earlier ++ step :: (middle ++ later) →
      step.reply = .subscribed id → (∀ other ∈ middle, other.request ≠ .close id) →
      (step.after.afterSteps middle).inbox? id = some (history middle)) := by
  intro fresh steps
  have served : Served fresh steps := fresh.steps_served env world requests
  have apart : fresh.isConnected = false := rfl
  have whole := served.follows
  rw [apart] at whole
  obtain ⟨alternate, -⟩ := whole.links_eq
  have connected : ∀ earlier later, steps = earlier ++ later →
      ((fresh.afterSteps earlier).isConnected = true ↔
        (links (history earlier)).getLast? = some true) := by
    intro earlier later cut
    rw [cut] at served
    have follows := served.split.1.follows
    rw [apart] at follows
    rw [← follows.links_eq.2, getLastD_false]
  refine ⟨alternate.of_cons, ?_, ?_, connected, ?_, ?_, ?_⟩
  · intro first
    obtain ⟨rest, links_eq⟩ := List.head?_eq_some_iff.mp first
    rw [links_eq] at alternate
    exact (List.isChain_cons_cons.mp alternate).1 rfl
  · intro before event after cut known
    rw [cut] at whole
    obtain ⟨middle, early, late⟩ := whole.split
    rw [← getLastD_false, early.links_eq.2]
    exact late.linked_of_session known
  · intro step member error failed
    obtain ⟨only, -, disconnected⟩ := (served.served step member).refused failed
    exact ⟨only, disconnected⟩
  · intro earlier drop later cut asked
    have member : drop ∈ steps := by simp [cut]
    have dropped := (served.served drop member).dropped asked
    rw [ne_eq, ← connected (earlier ++ [drop]) later (by simp [cut])]
    simp [Receiver.afterSteps_append, Receiver.afterSteps, dropped]
  · intro earlier step middle later id cut subscribed open?
    rw [cut] at served
    obtain ⟨before, same, did, following⟩ := served.split
    have numbered : step.before.Numbered := by
      rw [same]
      exact before.numbered (by simp [Receiver.Numbered, fresh, Receiver.new])
    simpa using following.split.1.inbox? (did.inbox?_new numbered subscribed) open?

end FrameTap
