import FrameTap.Demo
import FrameTap.Proofs.Receiver.Refusals

set_option autoImplicit false

namespace FrameTap

namespace Demo

inductive Doing
  | asked (raised : Bool)
  -- What an attempt announced belongs to it.
  | attempted (answer : Except Error Unit) (events : List ReceiverEvent)
  | noted (notice : Notice)
  | slept (length : Nanoseconds)

namespace Doing

def answer? : Doing → Option (Except Error Unit)
  | .attempted answer _ => some answer
  | _ => none

def refusal? : Doing → Option Error
  | .attempted (.error error) _ => some error
  | _ => none

def nap? : Doing → Option Nanoseconds
  | .slept length => some length
  | _ => none

def events : Doing → List ReceiverEvent
  | .attempted _ events => events
  | _ => []

variable {σ : Type}

def Leads (station : Station (StateM σ)) :
    Doing → Receiver (StateM σ) × σ → Receiver (StateM σ) × σ → Prop
  | .asked raised, (receiver, world), (after, reached) =>
    station.stopRequested world = (raised, reached) ∧ after = receiver
  | .attempted answer events, (receiver, world), (after, reached) =>
    Receiver.connect station.toSurroundings receiver world = ((answer, after), reached) ∧
      receiver.overheard (Receiver.connect station.toSurroundings) world = events
  | .noted notice, (receiver, world), (after, reached) =>
    station.log notice world = ((), reached) ∧ after = receiver
  | .slept length, (receiver, world), (after, reached) =>
    station.sleep length world = ((), reached) ∧ after = receiver

end Doing

def answers (doings : List Doing) : List (Except Error Unit) := doings.filterMap (·.answer?)

def refusals (doings : List Doing) : List Error := doings.filterMap (·.refusal?)

def napsTaken (doings : List Doing) : List Nanoseconds := doings.filterMap (·.nap?)

def announced (doings : List Doing) : List ReceiverEvent := doings.flatMap (·.events)

/-- One thing done after the other, and nothing between them. -/
def Course {σ : Type} (station : Station (StateM σ)) :
    List Doing → Receiver (StateM σ) × σ → Receiver (StateM σ) × σ → Prop
  | [], start, last => start = last
  | doing :: rest, start, last =>
    ∃ middle, doing.Leads station start middle ∧ Course station rest middle last

section Rounds

variable (permitted : Nat) (nap : Nanoseconds)

def refusedRound (number : Nat) (error : Error) : List Doing :=
  [.asked false, .attempted (.error error) [.error error.message],
    .noted (.waitingForProducer number permitted error)]

def failedRounds : Nat → List Error → List Doing
  | _, [] => []
  | number, error :: rest =>
    refusedRound permitted number error ++ .slept nap :: failedRounds (number + 1) rest

inductive LastRound (number : Nat) : List Doing → RetryOutcome → Prop
  | stopped : LastRound number [.asked true] .stopped
  | connected {events : List ReceiverEvent} :
      LastRound number [.asked false, .attempted (.ok ()) events] .connected
  | stoppedLate {error : Error} (last : number = permitted) :
      LastRound number (refusedRound permitted number error ++ [.asked true]) .stopped
  | exhausted {error : Error} (last : number = permitted) :
      LastRound number (refusedRound permitted number error ++ [.asked false])
        (.exhausted permitted error)

end Rounds

section Run

variable {σ : Type} {station : Station (StateM σ)} {receiver : Receiver (StateM σ)}

theorem course_append {front back : List Doing} {start middle last : Receiver (StateM σ) × σ}
    (first : Course station front start middle) (second : Course station back middle last) :
    Course station (front ++ back) start last := by
  induction front generalizing start with
  | nil =>
    cases first
    exact second
  | cons doing rest ih =>
    obtain ⟨next, leads, course⟩ := first
    exact ⟨next, leads, ih course⟩

-- An attempt either leaves the receiver apart and tells of one error, or connects it.
theorem attempt_cases (station : Station (StateM σ)) (apart : receiver.connection = none)
    (world : σ) :
    ∃ answer events after reached,
      (Doing.attempted answer events).Leads station (receiver, world) (after, reached) ∧
      after.subscribers = informed receiver.subscribers events ∧
      ((answer = .ok () ∧ after.isConnected = true) ∨
        ∃ error, answer = .error error ∧ events = [.error error.message] ∧
          after.connection = none) := by
  obtain ⟨outcome, ran, connecting⟩ := Receiver.connect_yields station.toSurroundings receiver world
  have told := ran receiver.subscribers
  rw [Receiver.heardBy_self] at told
  refine ⟨outcome.value, outcome.events, _, _, ⟨told, Receiver.overheard_of_yields ran⟩, rfl, ?_⟩
  cases connecting with
  | already connected => exact absurd connected (by simp [Receiver.isConnected, apart])
  | refused _ => exact .inr ⟨_, rfl, rfl, apart⟩
  | established _ fresh => exact .inl ⟨rfl, rfl⟩

variable (station) in
-- What is left to do once an attempt was refused and that was noted.
def afterRefusal (settings : DemoSettings) (error : Error) : Nat → ReceiverM (StateM σ) RetryOutcome
  | 0 => do
    if ← station.stopRequested then
      return .stopped
    else
      return .exhausted (attempts settings) error
  | left + 1 => do
    station.sleep settings.retryInterval
    connectAgain station settings left

theorem connectAgain_eq (settings : DemoSettings) (left : Nat) :
    connectAgain station settings left = (do
      if ← station.stopRequested then
        return .stopped
      else
        match ← Receiver.connect station.toSurroundings with
        | .ok () => return .connected
        | .error error =>
          station.log
            (.waitingForProducer (attempts settings - left) (attempts settings) error)
          afterRefusal station settings error left) := by
  cases left <;> rfl

structure Retried (station : Station (StateM σ)) (settings : DemoSettings) (left : Nat)
    (receiver : Receiver (StateM σ)) (world : σ) (failures : List Error) (ending : List Doing)
    (outcome : RetryOutcome) (after : Receiver (StateM σ)) (reached : σ) : Prop where
  few : failures.length ≤ left
  course : Course station
    (failedRounds (attempts settings) settings.retryInterval (attempts settings - left)
      failures ++ ending)
    (receiver, world) (after, reached)
  ends : LastRound (attempts settings) (attempts settings - left + failures.length) ending outcome
  heard : after.subscribers = informed receiver.subscribers
    (announced
      (failedRounds (attempts settings) settings.retryInterval (attempts settings - left)
        failures ++ ending))
  linked : after.isConnected = true ↔ outcome = .connected

theorem Retried.of_stopped {settings : DemoSettings} {left : Nat} {world reached : σ}
    (apart : receiver.connection = none)
    (asked : station.stopRequested world = (true, reached)) :
    Retried station settings left receiver world [] [.asked true] .stopped receiver reached where
  few := Nat.zero_le left
  course := ⟨(receiver, reached), ⟨asked, rfl⟩, rfl⟩
  ends := .stopped
  heard := rfl
  linked := by simp [Receiver.isConnected, apart]

theorem Retried.of_connected {settings : DemoSettings} {left : Nat} {events : List ReceiverEvent}
    {after : Receiver (StateM σ)} {world reached : σ}
    (course : Course station [.asked false, .attempted (.ok ()) events] (receiver, world)
      (after, reached))
    (heard : after.subscribers = informed receiver.subscribers events)
    (linked : after.isConnected = true) :
    Retried station settings left receiver world [] [.asked false, .attempted (.ok ()) events]
      .connected after reached where
  few := Nat.zero_le left
  course := course
  ends := .connected
  heard := by simpa [announced, failedRounds, Doing.events] using heard
  linked := iff_of_true linked rfl

-- After the last attempt the flag is read once more.
theorem Retried.of_last {settings : DemoSettings} {error : Error} {middle : Receiver (StateM σ)}
    {world told : σ}
    (course : Course station (refusedRound (attempts settings) (attempts settings) error)
      (receiver, world) (middle, told))
    (heard : middle.subscribers = informed receiver.subscribers [.error error.message])
    (apart : middle.connection = none) :
    ∃ ending outcome reached,
      afterRefusal station settings error 0 middle told = ((outcome, middle), reached) ∧
      Retried station settings 0 receiver world [] ending outcome middle reached := by
  have unlinked := Receiver.isConnected_eq_false apart
  rw [afterRefusal, Receiver.lift_bind]
  rcases asked : station.stopRequested told with ⟨raised, reached⟩
  have going : Course station
      (refusedRound (attempts settings) (attempts settings) error ++ [.asked raised])
      (receiver, world) (middle, reached) :=
    course_append course ⟨(middle, reached), ⟨asked, rfl⟩, rfl⟩
  cases raised with
  | true =>
    exact ⟨_, .stopped, reached, rfl, Nat.zero_le 0, going, .stoppedLate rfl, heard,
      by simp [unlinked]⟩
  | false =>
    exact ⟨_, .exhausted (attempts settings) error, reached, rfl, Nat.zero_le 0, going,
      .exhausted rfl, heard, by simp [unlinked]⟩

theorem Retried.after_refusal {settings : DemoSettings} {left : Nat} {error : Error}
    {failures : List Error} {ending : List Doing} {outcome : RetryOutcome}
    {middle after : Receiver (StateM σ)} {world told reached : σ}
    (enough : left + 1 < attempts settings)
    (course : Course station
      (refusedRound (attempts settings) (attempts settings - (left + 1)) error)
      (receiver, world) (middle, told))
    (heard : middle.subscribers = informed receiver.subscribers [.error error.message])
    (retried : Retried station settings left middle (station.sleep settings.retryInterval told).2
      failures ending outcome after reached) :
    Retried station settings (left + 1) receiver world (error :: failures) ending outcome after
      reached := by
  have next : attempts settings - (left + 1) + 1 = attempts settings - left := by omega
  have rounds :
      failedRounds (attempts settings) settings.retryInterval (attempts settings - (left + 1))
          (error :: failures) ++ ending =
        refusedRound (attempts settings) (attempts settings - (left + 1)) error ++
          .slept settings.retryInterval ::
            (failedRounds (attempts settings) settings.retryInterval (attempts settings - left)
              failures ++ ending) := by
    rw [failedRounds, next, List.append_assoc, List.cons_append]
  refine ⟨Nat.succ_le_succ retried.few, ?_, ?_, ?_, retried.linked⟩
  · rw [rounds]
    exact course_append course ⟨_, ⟨rfl, rfl⟩, retried.course⟩
  · rw [List.length_cons, Nat.add_comm failures.length, ← Nat.add_assoc, next]
    exact retried.ends
  · rw [retried.heard, heard, ← informed_append, rounds]
    rfl

inductive RoundBegun (station : Station (StateM σ)) (settings : DemoSettings) (left : Nat)
    (receiver : Receiver (StateM σ)) (world : σ) : (RetryOutcome × Receiver (StateM σ)) × σ → Prop
  | settled {ending : List Doing} {outcome : RetryOutcome} {after : Receiver (StateM σ)}
      {reached : σ}
      (retried : Retried station settings left receiver world [] ending outcome after reached) :
      RoundBegun station settings left receiver world ((outcome, after), reached)
  | refused {error : Error} {after : Receiver (StateM σ)} {reached : σ}
      (course : Course station (refusedRound (attempts settings) (attempts settings - left) error)
        (receiver, world) (after, reached))
      (heard : after.subscribers = informed receiver.subscribers [.error error.message])
      (apart : after.connection = none) :
      RoundBegun station settings left receiver world
        (afterRefusal station settings error left after reached)

theorem connectAgain_begins (station : Station (StateM σ)) (settings : DemoSettings) (left : Nat)
    (apart : receiver.connection = none) (world : σ) :
    RoundBegun station settings left receiver world
      (connectAgain station settings left receiver world) := by
  rw [connectAgain_eq, Receiver.lift_bind]
  rcases asked : station.stopRequested world with ⟨raised, read⟩
  cases raised with
  | true => exact .settled (.of_stopped apart asked)
  | false =>
    obtain ⟨answer, events, after, reached, leads, heard, found⟩ :=
      attempt_cases station apart read
    rw [if_neg Bool.false_ne_true, Receiver.bind_of_eq leads.1]
    have going : Course station [.asked false, .attempted answer events] (receiver, world)
        (after, reached) :=
      ⟨(receiver, read), ⟨asked, rfl⟩, (after, reached), leads, rfl⟩
    obtain ⟨rfl, linked⟩ | ⟨error, rfl, rfl, apart⟩ := found
    · exact .settled (.of_connected going heard linked)
    · refine .refused (course_append going ⟨_, ⟨?_, rfl⟩, rfl⟩) heard apart
      rfl

theorem connectAgain_retried (station : Station (StateM σ)) (settings : DemoSettings)
    {left : Nat} (enough : left < attempts settings) (apart : receiver.connection = none)
    (world : σ) :
    ∃ failures ending outcome after reached,
      connectAgain station settings left receiver world = ((outcome, after), reached) ∧
      Retried station settings left receiver world failures ending outcome after reached := by
  induction left generalizing receiver world with
  | zero =>
    have begun := connectAgain_begins station settings 0 apart world
    generalize connectAgain station settings 0 receiver world = run at begun ⊢
    cases begun with
    | settled retried => exact ⟨_, _, _, _, _, rfl, retried⟩
    | refused course heard apart =>
      obtain ⟨ending, outcome, reached, ran, retried⟩ := Retried.of_last course heard apart
      exact ⟨[], ending, outcome, _, reached, ran, retried⟩
  | succ left ih =>
    have begun := connectAgain_begins station settings (left + 1) apart world
    generalize connectAgain station settings (left + 1) receiver world = run at begun ⊢
    cases begun with
    | settled retried => exact ⟨_, _, _, _, _, rfl, retried⟩
    | @refused error middle told course heard apart =>
      obtain ⟨failures, ending, outcome, after, reached, ran, retried⟩ :=
        ih (Nat.lt_of_succ_lt enough) apart (station.sleep settings.retryInterval told).2
      exact ⟨error :: failures, ending, outcome, after, reached, ran,
        retried.after_refusal enough course heard⟩

end Run

section Shape

variable (permitted : Nat) (nap : Nanoseconds) (number : Nat) (failures : List Error)

theorem answers_failedRounds :
    answers (failedRounds permitted nap number failures) = failures.map .error := by
  induction failures generalizing number with
  | nil => rfl
  | cons error rest ih => exact congrArg (List.cons (.error error)) (ih (number + 1))

theorem refusals_failedRounds :
    refusals (failedRounds permitted nap number failures) = failures := by
  induction failures generalizing number with
  | nil => rfl
  | cons error rest ih => exact congrArg (List.cons error) (ih (number + 1))

theorem napsTaken_failedRounds :
    napsTaken (failedRounds permitted nap number failures) =
      List.replicate failures.length nap := by
  induction failures generalizing number with
  | nil => rfl
  | cons error rest ih => exact congrArg (List.cons nap) (ih (number + 1))

variable {permitted nap number failures}

-- Whatever ends the loop has not happened in a round that others follow.
theorem ongoing_of_mem_failedRounds {doing : Doing}
    (member : doing ∈ failedRounds permitted nap number failures) :
    doing ≠ .asked true ∧ ∀ answer events, doing = .attempted answer events →
      ∃ error, answer = .error error ∧ events = [.error error.message] := by
  induction failures generalizing number with
  | nil => cases member
  | cons error rest ih =>
    simp only [failedRounds, refusedRound, List.cons_append, List.nil_append,
      List.mem_cons] at member
    obtain rfl | rfl | rfl | rfl | later := member
    · simp
    · simp
    · simp
    · simp
    · exact ih later

theorem raised_not_mem_failedRounds : .asked true ∉ failedRounds permitted nap number failures :=
  fun member => (ongoing_of_mem_failedRounds member).1 rfl

theorem success_not_mem_failedRounds (events : List ReceiverEvent) :
    .attempted (.ok ()) events ∉ failedRounds permitted nap number failures := by
  intro member
  obtain ⟨error, answered, -⟩ := (ongoing_of_mem_failedRounds member).2 _ _ rfl
  cases answered

theorem told_of_mem_failedRounds {error : Error} {events : List ReceiverEvent}
    (member : .attempted (.error error) events ∈ failedRounds permitted nap number failures) :
    events = [.error error.message] := by
  obtain ⟨_, answered, told⟩ := (ongoing_of_mem_failedRounds member).2 _ _ rfl
  cases answered
  exact told

end Shape

/-- What the loop owes to whoever starts it, in terms of how many attempts are permitted and how
long a nap is. -/
structure RetryContract (permitted : Nat) (nap : Nanoseconds) (doings : List Doing)
    (outcome : RetryOutcome) : Prop where
  bounded : (answers doings).length ≤ permitted
  -- Nothing follows a flag that was seen raised, or a connection.
  concluded : ∀ doing ∈ doings.dropLast,
    doing ≠ .asked true ∧ ∀ events, doing ≠ .attempted (.ok ()) events
  connected_iff : outcome = .connected ↔ ∃ events, .attempted (.ok ()) events ∈ doings
  stopped_iff : outcome = .stopped ↔ .asked true ∈ doings
  exhausted : ∀ number error, outcome = .exhausted number error →
    number = permitted ∧ (answers doings).length = number ∧
      (answers doings).getLast? = some (.error error) ∧
      (toString number).toList <:+: (RetryOutcome.exhaustedMessage number error).toList ∧
      error.message.toList <:+: (RetryOutcome.exhaustedMessage number error).toList
  -- One nap for each failed attempt but the last that is permitted.
  rested : napsTaken doings = List.replicate (min (refusals doings).length (permitted - 1)) nap
  told : ∀ error events, .attempted (.error error) events ∈ doings →
    events = [.error error.message]

section Contract

variable {permitted : Nat} {nap : Nanoseconds} {failures : List Error} {ending : List Doing}
  {outcome : RetryOutcome} {number : Nat}

theorem exhaustedMessage_names (attempts : Nat) (error : Error) :
    (toString attempts).toList <:+: (RetryOutcome.exhaustedMessage attempts error).toList ∧
      error.message.toList <:+: (RetryOutcome.exhaustedMessage attempts error).toList := by
  have named (front count middle text back : String) :
      count.toList <:+: (front ++ count ++ middle ++ text ++ back).toList ∧
        text.toList <:+: (front ++ count ++ middle ++ text ++ back).toList := by
    simp only [String.toList_append]
    exact ⟨⟨front.toList, middle.toList ++ text.toList ++ back.toList, by simp⟩,
      ⟨front.toList ++ count.toList ++ middle.toList, back.toList, by simp⟩⟩
  unfold RetryOutcome.exhaustedMessage
  exact named _ _ _ _ _

theorem LastRound.ne_nil (ends : LastRound permitted number ending outcome) : ending ≠ [] := by
  cases ends <;> simp [refusedRound]

theorem LastRound.length_answers (ends : LastRound permitted number ending outcome) :
    (answers ending).length ≤ 1 := by
  cases ends <;> simp [refusedRound, answers, Doing.answer?]

theorem LastRound.concluded (ends : LastRound permitted number ending outcome) :
    ∀ doing ∈ ending.dropLast,
      doing ≠ .asked true ∧ ∀ events, doing ≠ .attempted (.ok ()) events := by
  cases ends <;> simp [refusedRound]

theorem LastRound.connected_iff (ends : LastRound permitted number ending outcome) :
    outcome = .connected ↔ ∃ events, .attempted (.ok ()) events ∈ ending := by
  cases ends <;> simp [refusedRound]

theorem LastRound.stopped_iff (ends : LastRound permitted number ending outcome) :
    outcome = .stopped ↔ .asked true ∈ ending := by
  cases ends <;> simp [refusedRound]

theorem LastRound.told (ends : LastRound permitted number ending outcome) {error : Error}
    {events : List ReceiverEvent} (member : .attempted (.error error) events ∈ ending) :
    events = [.error error.message] := by
  cases ends <;> simp_all [refusedRound]

theorem LastRound.napless (ends : LastRound permitted number ending outcome) :
    napsTaken ending = [] := by
  cases ends <;> rfl

theorem LastRound.refusals_of_last (ends : LastRound permitted number ending outcome) :
    (refusals ending).length = 0 ∨ (refusals ending).length = 1 ∧ number = permitted := by
  cases ends with
  | stopped => exact .inl rfl
  | connected => exact .inl rfl
  | stoppedLate last => exact .inr ⟨rfl, last⟩
  | exhausted last => exact .inr ⟨rfl, last⟩

theorem LastRound.answers_of_exhausted {count : Nat} {error : Error}
    (ends : LastRound permitted number ending outcome) (same : outcome = .exhausted count error) :
    number = permitted ∧ count = permitted ∧ answers ending = [.error error] := by
  cases ends with
  | stopped => cases same
  | connected => cases same
  | stoppedLate last => cases same
  | exhausted last =>
    cases same
    exact ⟨last, rfl, rfl⟩

theorem retryContract (fewer : failures.length < permitted)
    (ends : LastRound permitted (failures.length + 1) ending outcome) :
    RetryContract permitted nap (failedRounds permitted nap 1 failures ++ ending) outcome := by
  have answered : answers (failedRounds permitted nap 1 failures ++ ending) =
      failures.map .error ++ answers ending := by
    rw [answers, List.filterMap_append, ← answers, ← answers, answers_failedRounds]
  have refused : refusals (failedRounds permitted nap 1 failures ++ ending) =
      failures ++ refusals ending := by
    rw [refusals, List.filterMap_append, ← refusals, ← refusals, refusals_failedRounds]
  have rested : napsTaken (failedRounds permitted nap 1 failures ++ ending) =
      List.replicate failures.length nap := by
    rw [napsTaken, List.filterMap_append, ← napsTaken, ← napsTaken, napsTaken_failedRounds,
      ends.napless, List.append_nil]
  constructor
  case bounded =>
    have one := ends.length_answers
    rw [answered, List.length_append, List.length_map]
    omega
  case concluded =>
    rw [List.dropLast_append_of_ne_nil ends.ne_nil]
    refine List.forall_mem_append.mpr ⟨fun doing member => ⟨?_, fun events => ?_⟩, ends.concluded⟩
    · exact ne_of_mem_of_not_mem member raised_not_mem_failedRounds
    · exact ne_of_mem_of_not_mem member (success_not_mem_failedRounds events)
  case connected_iff =>
    rw [ends.connected_iff]
    refine exists_congr fun events => ?_
    rw [List.mem_append, or_iff_right (success_not_mem_failedRounds events)]
  case stopped_iff =>
    rw [ends.stopped_iff, List.mem_append, or_iff_right raised_not_mem_failedRounds]
  case exhausted =>
    intro count error same
    obtain ⟨last, rfl, only⟩ := ends.answers_of_exhausted same
    rw [answered, only]
    exact ⟨rfl, by simpa using last, by simp, exhaustedMessage_names _ error⟩
  case rested =>
    rw [rested, refused, List.length_append]
    congr 1
    obtain none | ⟨one, last⟩ := ends.refusals_of_last <;> omega
  case told =>
    intro error events member
    obtain earlier | late := List.mem_append.mp member
    · exact told_of_mem_failedRounds earlier
    · exact ends.told late

end Contract

-- A receiver that is not connected, on a station that may answer anything at any time.
theorem connectWithRetries_keeps_contract {σ : Type} (station : Station (StateM σ))
    (settings : DemoSettings) (receiver : Receiver (StateM σ)) (world : σ)
    (apart : receiver.connection = none) :
    let permitted := max settings.connectAttempts.toNat 1
    let nap : Nanoseconds := settings.retryIntervalMs.toNat * 1000000
    ∃ failures ending outcome after reached,
      let doings := failedRounds permitted nap 1 failures ++ ending
      connectWithRetries station settings receiver world = ((outcome, after), reached) ∧
      Course station doings (receiver, world) (after, reached) ∧
      failures.length < permitted ∧
      LastRound permitted (failures.length + 1) ending outcome ∧
      RetryContract permitted nap doings outcome ∧
      after.subscribers = informed receiver.subscribers (announced doings) ∧
      (after.connection ≠ none ↔ outcome = .connected) := by
  intro permitted nap
  have positive : 0 < attempts settings := Nat.le_max_right _ _
  have enough : attempts settings - 1 < attempts settings := by omega
  have first : attempts settings - (attempts settings - 1) = 1 := by omega
  obtain ⟨failures, ending, outcome, after, reached, ran, retried⟩ :=
    connectAgain_retried station settings enough apart world
  obtain ⟨few, course, ends, heard, linked⟩ := retried
  rw [first] at course ends heard
  have fewer : failures.length < attempts settings := by omega
  rw [Nat.add_comm] at ends
  rw [Receiver.isConnected, Option.isSome_iff_ne_none] at linked
  exact ⟨failures, ending, outcome, after, reached, ran, course, fewer, ends,
    retryContract fewer ends, heard, linked⟩

-- Nobody stops the program, and no producer ever comes.
def barrenStation : Station (StateM Unit) where
  toSurroundings := barrenWorld
  images := { create := fun _ => pure (.ok ()), write := fun _ _ => pure (.ok ()) }
  stopRequested := pure false

theorem connectWithRetries_keeps_contract_barrenStation :
    unlinked.connection = none ∧
      (∃ doings error after,
        connectWithRetries barrenStation { connectAttempts := 0 } unlinked () =
          ((.exhausted 1 error, after), ()) ∧
        Course barrenStation doings (unlinked, ()) (after, ()) ∧
        answers doings = [.error error] ∧ napsTaken doings = [] ∧ after.connection = none) ∧
      ∃ doings error after,
        connectWithRetries barrenStation { connectAttempts := 2 } unlinked () =
          ((.exhausted 2 error, after), ()) ∧
        Course barrenStation doings (unlinked, ()) (after, ()) ∧
        (answers doings).length = 2 ∧ (answers doings).getLast? = some (.error error) ∧
        (napsTaken doings).length ≤ 1 ∧ after.connection = none := by
  have course (settings : DemoSettings) (count : Nat)
      (ended : ∃ error,
        (connectWithRetries barrenStation settings unlinked ()).1.1 = .exhausted count error) :
      ∃ doings error after,
        connectWithRetries barrenStation settings unlinked () =
          ((.exhausted count error, after), ()) ∧
        Course barrenStation doings (unlinked, ()) (after, ()) ∧
        (answers doings).length = count ∧ (answers doings).getLast? = some (.error error) ∧
        (napsTaken doings).length ≤ count - 1 ∧ after.connection = none := by
    obtain ⟨error, ended⟩ := ended
    obtain ⟨failures, ending, outcome, after, reached, ran, course, -, -, contract, -, linked⟩ :=
      connectWithRetries_keeps_contract barrenStation settings unlinked () rfl
    rw [ran] at ended
    obtain rfl : outcome = .exhausted count error := ended
    obtain ⟨permitted, made, last, -⟩ := contract.exhausted count error rfl
    refine ⟨_, error, after, ran, course, made, last, ?_, by simpa using linked⟩
    rw [contract.rested, List.length_replicate, ← permitted]
    exact Nat.min_le_right _ _
  refine ⟨rfl, ?_, course { connectAttempts := 2 } 2 ⟨_, rfl⟩⟩
  obtain ⟨doings, error, after, ran, done, made, last, rested, apart⟩ :=
    course { connectAttempts := 0 } 1 ⟨_, rfl⟩
  obtain ⟨answer, only⟩ := List.length_eq_one_iff.mp made
  rw [only] at last
  exact ⟨doings, error, after, ran, done, only.trans (by simpa using last),
    List.eq_nil_of_length_eq_zero (Nat.le_zero.mp rested), apart⟩

end Demo

end FrameTap
