import FrameTap.Proofs.Receiver.Outcomes
import FrameTap.Proofs.Synchronizer.Spans

set_option autoImplicit false

namespace FrameTap

namespace ReceiverEvent

def isReset : ReceiverEvent → Bool
  | .sessionReset _ => true
  | _ => false

def delivery? : ReceiverEvent → Option (UInt64 × Option Nat)
  | .frameReceived frameNumber slot => some (frameNumber, slot)
  | _ => none

theorem passed_of_quiet {event : ReceiverEvent} (quiet : event.ofSession = false) :
    event.isReset = false ∧ event.delivery? = none := by
  cases event <;> simp_all [ofSession, isReset, delivery?]

end ReceiverEvent

-- The frames that events announce, by number and slot.
def deliveries (events : List ReceiverEvent) : List (UInt64 × Option Nat) :=
  events.filterMap (·.delivery?)

theorem deliveries_append (front back : List ReceiverEvent) :
    deliveries (front ++ back) = deliveries front ++ deliveries back :=
  List.filterMap_append

-- The numbers that events announce, in the groups that the resets between them make.
def groups (events : List ReceiverEvent) : List (List UInt64) :=
  (events.splitOnP (·.isReset)).map fun group => (deliveries group).map Prod.fst

section Groups

variable {events : List ReceiverEvent}

theorem groups_reset (reset : SessionReset) :
    groups (.sessionReset reset :: events) = [] :: groups events := by
  simp [groups, List.splitOnP_cons_eq_if_modifyHead, ReceiverEvent.isReset, deliveries]

theorem groups_cons {event : ReceiverEvent} (kept : event.isReset = false) :
    groups (event :: events) =
      (groups events).modifyHead (event.delivery?.toList.map Prod.fst ++ ·) := by
  have pieces := List.splitOnP_ne_nil (·.isReset) events
  rw [groups, groups, List.splitOnP_cons_eq_if_modifyHead, kept]
  cases cut : events.splitOnP (·.isReset) with
  | nil => exact absurd cut pieces
  | cons first others => cases announced : event.delivery? <;> simp [deliveries, announced]

theorem groups_quiet {event : ReceiverEvent} (quiet : event.ofSession = false) :
    groups (event :: events) = groups events := by
  obtain ⟨kept, silent⟩ := ReceiverEvent.passed_of_quiet quiet
  rw [groups_cons kept, silent]
  exact congrFun List.modifyHead_id (groups events)

theorem groups_frames (frames : List Frame) :
    groups (Receiver.frameEvents frames ++ events) =
      (groups events).modifyHead (frameNumbers frames ++ ·) := by
  induction frames with
  | nil => exact (congrFun List.modifyHead_id (groups events)).symm
  | cons frame rest ih =>
    change groups (.frameReceived frame.frameNumber frame.slot ::
      (Receiver.frameEvents rest ++ events)) = _
    rw [groups_cons rfl, ih, List.modifyHead_modifyHead]
    rfl

end Groups

/-- Events that announce what the extractions delivered, in turn, and between them nothing that an
extraction has to announce. -/
inductive Announces : List ReceiverEvent → List Poll → Prop
  | nil : Announces [] []
  | quiet {event : ReceiverEvent} {events : List ReceiverEvent} {polls : List Poll}
      (quiet : event.ofSession = false) (later : Announces events polls) :
      Announces (event :: events) polls
  | poll {poll : Poll} {events : List ReceiverEvent} {polls : List Poll}
      (later : Announces events polls) :
      Announces (Receiver.resetEvents poll.reset? ++ Receiver.frameEvents poll.frames ++ events)
        (poll :: polls)

namespace Announces

variable {events later : List ReceiverEvent} {polls others : List Poll}

theorem append (first : Announces events polls) (second : Announces later others) :
    Announces (events ++ later) (polls ++ others) := by
  induction first with
  | nil => exact second
  | quiet quiet _ ih => exact .quiet quiet ih
  | poll _ ih =>
    rw [List.append_assoc]
    exact .poll ih

theorem of_quiet (quiet : ∀ event ∈ events, event.ofSession = false) :
    Announces events [] := by
  induction events with
  | nil => exact .nil
  | cons event rest ih =>
    obtain ⟨first, others⟩ := List.forall_mem_cons.mp quiet
    exact .quiet first (ih others)

theorem deliveries_eq (announces : Announces events polls) :
    deliveries events =
      (polls.flatMap (·.frames)).map fun frame => (frame.frameNumber, frame.slot) := by
  induction announces with
  | nil => rfl
  | quiet quiet _ ih =>
    rw [deliveries, List.filterMap_cons_none (ReceiverEvent.passed_of_quiet quiet).2]
    exact ih
  | @poll poll _ _ _ ih =>
    have resets : deliveries (Receiver.resetEvents poll.reset?) = [] := by
      cases poll.reset? <;> rfl
    have frames : deliveries (Receiver.frameEvents poll.frames) =
        poll.frames.map fun frame => (frame.frameNumber, frame.slot) := by
      simp [deliveries, Receiver.frameEvents, ReceiverEvent.delivery?]
    rw [deliveries_append, deliveries_append, resets, frames, ih]
    simp

theorem groups_eq (announces : Announces events polls) :
    groups events = ((parts polls).1 :: (parts polls).2).map numbers := by
  induction announces with
  | nil => rfl
  | quiet quiet _ ih => rw [groups_quiet quiet, ih]
  | @poll poll events polls _ ih =>
    have joined : groups (Receiver.frameEvents poll.frames ++ events) =
        numbers (poll :: (parts polls).1) :: (parts polls).2.map numbers := by
      rw [groups_frames, ih, numbers_cons]
      rfl
    rw [parts, Poll.startsSession_eq]
    cases poll.reset? with
    | none => exact joined
    | some reset =>
      change groups (.sessionReset reset :: (Receiver.frameEvents poll.frames ++ events)) = _
      rw [groups_reset, joined]
      rfl

end Announces

end FrameTap
