import FrameTap.Demo
import FrameTap.Proofs.Receiver.History

set_option autoImplicit false

namespace FrameTap

variable {σ : Type}

def Receiver.Announces {α : Type} (action : ReceiverM (StateM σ) α) (value : α)
    (events : List ReceiverEvent) (start last : Receiver (StateM σ) × σ) : Prop :=
  action start.1 start.2 = ((value, last.1), last.2) ∧
    start.1.overheard action start.2 = events ∧
    last.1.subscribers = informed start.1.subscribers events

namespace Demo

structure Loop (σ : Type) where
  station : Station (StateM σ)
  settings : DemoSettings
  -- What is done after each round.
  between : ReceiverM (StateM σ) Unit
  patience : Nat

namespace Loop

def saver (loop : Loop σ) : Saver where
  directory := loop.settings.screenshotDir
  every := loop.settings.screenshotEvery

def await (loop : Loop σ) : ReceiverM (StateM σ) (Option (Except Error Bool)) :=
  Receiver.waitForFrame loop.station.toSurroundings (some loop.settings.waitTimeout)
    (Receiver.patienceFor loop.settings.waitTimeout + loop.patience)

def take (loop : Loop σ) : ReceiverM (StateM σ) (Except Error (List Frame)) :=
  Receiver.extract loop.station.toSurroundings loop.settings.mode

def save (loop : Loop σ) (frame : Frame) : StateM σ (Except Error String) :=
  loop.saver.save loop.station.toSurroundings loop.station.images frame

def leave (loop : Loop σ) : ReceiverM (StateM σ) Unit :=
  Receiver.disconnect loop.station.toSurroundings

def round (loop : Loop σ) : ReceiverM (StateM σ) (Option (Except Error Unit)) := do
  let answer ← receiveRound loop.station loop.settings loop.saver loop.patience
  loop.between
  return answer

def run (loop : Loop σ) : ReceiverM (StateM σ) (Option (Except Error Unit)) :=
  receiveLoop loop.station loop.settings loop.between loop.patience

-- Without what is said at the start.
def untilStopped (loop : Loop σ) : ReceiverM (StateM σ) (Option (Except Error Unit)) := do
  let outcome ← repeatUntilStopped loop.station loop.round loop.patience
  if outcome.isSome then
    loop.leave
  return outcome

-- Whoever looks on between rounds may collect what was heard, and nothing else.
def Unmeddled (loop : Loop σ) : Prop :=
  ∀ receiver world, ∃ subscribers reached,
    loop.between receiver world = (((), receiver.heardBy subscribers), reached)

inductive Act
  | asked (raised : Bool)
  | waited (answer : Option (Except Error Bool)) (events : List ReceiverEvent)
  | took (answer : Except Error (List Frame)) (events : List ReceiverEvent)
  | saved (frame : Frame) (answer : Except Error String)
  | noted (notice : Notice)
  | paused
  | left (events : List ReceiverEvent)

namespace Act

def read : Act → List Bool
  | .asked raised => [raised]
  | _ => []

def returned : Act → List Frame
  | .took (.ok frames) _ => frames
  | _ => []

def attempted : Act → List (Frame × Except Error String)
  | .saved frame answer => [(frame, answer)]
  | _ => []

def events : Act → List ReceiverEvent
  | .waited _ events | .took _ events | .left events => events
  | _ => []

def Leads (loop : Loop σ) (start last : Receiver (StateM σ) × σ) : Act → Prop
  | .asked raised =>
    loop.station.stopRequested start.2 = (raised, last.2) ∧ last.1 = start.1
  | .waited answer events => Receiver.Announces loop.await answer events start last
  | .took answer events => Receiver.Announces loop.take answer events start last
  | .saved frame answer => loop.save frame start.2 = (answer, last.2) ∧ last.1 = start.1
  | .noted notice => loop.station.log notice start.2 = ((), last.2) ∧ last.1 = start.1
  | .paused => loop.between start.1 start.2 = (((), last.1), last.2)
  | .left events => Receiver.Announces loop.leave () events start last

end Act

def Course (loop : Loop σ) :
    List Act → Receiver (StateM σ) × σ → Receiver (StateM σ) × σ → Prop
  | [], start, last => start = last
  | act :: rest, start, last => ∃ middle, act.Leads loop start middle ∧ Course loop rest middle last

section Rounds

variable (loop : Loop σ)

def opening : List Act :=
  (if loop.settings.screenshotEvery = 0 then []
    else [.noted (.savingEvery loop.settings.screenshotEvery loop.settings.screenshotDir)]) ++
    [.noted (.receiving loop.settings.mode)]

-- Attempts to save, with what is said of those that failed.
def saving : List (Frame × Except Error String) → List Act
  | [] => []
  | (frame, .ok path) :: rest => .saved frame (.ok path) :: saving rest
  | (frame, .error error) :: rest =>
    .saved frame (.error error) :: .noted (.saveFailed error) :: saving rest

inductive Told : List Frame → List ReceiverEvent → Prop
  | failed (error : Error) : Told [] [.error error.message]
  | delivered (reset : Option SessionReset) (frames : List Frame) :
      Told frames (Receiver.resetEvents reset ++ Receiver.frameEvents frames)

inductive Round : List Act → Prop
  | failed (error : Error) :
      Round [.asked false, .waited (some (.ok false)) [.error error.message], .paused]
  | idle : Round [.asked false, .waited (some (.ok false)) [], .paused]
  | busy {frames : List Frame} {events : List ReceiverEvent}
      {saves : List (Frame × Except Error String)} (told : Told frames events)
      (answered : saves.map Prod.fst = frames.filter loop.saver.isDue) :
      Round (.asked false :: .waited (some (.ok true)) [] :: .took (.ok frames) events ::
        (saving saves ++ [.paused]))

inductive Ending (patience rounds : Nat) : List Act → Option (Except Error Unit) → Prop
  | stopped (within : rounds < patience) : Ending patience rounds [.asked true] (some (.ok ()))
  -- A wait that did not come back.
  | stuck (within : rounds < patience) :
      Ending patience rounds [.asked false, .waited none [], .paused] none
  | outrun (all : rounds = patience) : Ending patience rounds [] none

def closing : Option (Except Error Unit) → List Act
  | none => []
  | some _ => [.left [.disconnected]]

end Rounds

section Run

variable {loop : Loop σ} {start middle last : Receiver (StateM σ) × σ}

theorem course_join {front back : List Act} (first : Course loop front start middle)
    (second : Course loop back middle last) : Course loop (front ++ back) start last := by
  induction front generalizing start with
  | nil =>
    cases first
    exact second
  | cons act rest ih =>
    obtain ⟨next, leads, course⟩ := first
    exact ⟨next, leads, ih course⟩

theorem course_one {act : Act} (leads : act.Leads loop start last) : Course loop [act] start last :=
  ⟨last, leads, rfl⟩

theorem announces_of_yields {α : Type} {action : ReceiverM (StateM σ) α}
    {receiver : Receiver (StateM σ)} {world : σ} {outcome : Receiver.Outcome σ α}
    (ran : Receiver.Yields action receiver world outcome) :
    Receiver.Announces action outcome.value outcome.events (receiver, world)
      (outcome.receiver.heardBy (informed receiver.subscribers outcome.events), outcome.world) :=
  ⟨ran receiver.subscribers, Receiver.overheard_of_yields ran, rfl⟩

theorem saveFrames_runs (loop : Loop σ) (receiver : Receiver (StateM σ)) (frames : List Frame)
    (world : σ) :
    ∃ saves reached, saveFrames loop.station loop.saver frames world = ((), reached) ∧
      Course loop (saving saves) (receiver, world) (receiver, reached) ∧
      saves.map Prod.fst = frames.filter loop.saver.isDue := by
  induction frames generalizing world with
  | nil => exact ⟨[], world, rfl, rfl, rfl⟩
  | cons frame rest ih =>
    rw [saveFrames, Saver.saveIfDue]
    cases due : loop.saver.isDue frame with
    | false =>
      obtain ⟨saves, reached, ran, course, answered⟩ := ih world
      exact ⟨saves, reached, ran, course, by simp [due, answered]⟩
    | true =>
      rcases tried : loop.save frame world with ⟨answer, stored⟩
      have ran : loop.saver.save loop.station.toSurroundings loop.station.images frame world =
          (answer, stored) := tried
      rw [if_pos rfl, bind_assoc, StateM.bind_of_eq ran]
      cases answer with
      | ok path =>
        obtain ⟨saves, reached, ran, course, answered⟩ := ih stored
        refine ⟨(frame, .ok path) :: saves, reached, ran, ?_, by simp [due, answered]⟩
        exact ⟨(receiver, stored), ⟨tried, rfl⟩, course⟩
      | error error =>
        obtain ⟨saves, reached, ran, course, answered⟩ :=
          ih (loop.station.log (.saveFailed error) stored).2
        refine ⟨(frame, .error error) :: saves, reached, ran, ?_, by simp [due, answered]⟩
        exact ⟨(receiver, stored), ⟨tried, rfl⟩, (receiver, _), ⟨rfl, rfl⟩, course⟩

section Linked

variable {receiver : Receiver (StateM σ)} (linked : receiver.isConnected = true)

include linked

theorem connection_ne_none : receiver.connection ≠ none := by
  intro apart
  simp [Receiver.isConnected, apart] at linked

theorem isConnected_heardBy (subscribers : List Subscriber) :
    (receiver.heardBy subscribers).isConnected = true :=
  linked

variable (loop) (world : σ)

theorem await_announces :
    ∃ answer events after reached,
      Receiver.Announces loop.await answer events (receiver, world) (after, reached) ∧
      after.isConnected = true ∧
      ((∃ error : Error, answer = some (.ok false) ∧ events = [.error error.message]) ∨
        events = [] ∧ ∀ error, answer ≠ some (.error error)) := by
  obtain ⟨outcome, ran, waiting⟩ := Receiver.waitForFrame_yields loop.station.toSurroundings
    (some loop.settings.waitTimeout)
    (Receiver.patienceFor loop.settings.waitTimeout + loop.patience) receiver world
  refine ⟨outcome.value, outcome.events, _, _, announces_of_yields ran, ?_⟩
  cases waiting with
  | apart apart => exact absurd apart (connection_ne_none linked)
  | failed _ => exact ⟨linked, .inl ⟨_, rfl, rfl⟩⟩
  | answered _ sound => exact ⟨linked, .inr ⟨rfl, sound⟩⟩

theorem take_announces :
    ∃ frames events after reached,
      Receiver.Announces loop.take (.ok frames) events (receiver, world) (after, reached) ∧
      Told frames events ∧ after.isConnected = true := by
  obtain ⟨outcome, ran, extracting⟩ := Receiver.extract_yields loop.station.toSurroundings
    loop.settings.mode receiver world
  have announces := announces_of_yields ran
  cases extracting with
  | apart apart => exact absurd apart (connection_ne_none linked)
  | failed _ =>
    exact ⟨_, _, _, _, announces, .failed _,
      isConnected_heardBy (Receiver.isConnected_advanced _ _) _⟩
  | delivered _ =>
    exact ⟨_, _, _, _, announces, .delivered _ _, isConnected_heardBy (by simp) _⟩

theorem leave_announces :
    ∃ after reached,
      Receiver.Announces loop.leave () [.disconnected] (receiver, world) (after, reached) ∧
      after.connection = none := by
  obtain ⟨outcome, ran, disconnecting⟩ :=
    Receiver.disconnect_yields loop.station.toSurroundings receiver world
  have announces := announces_of_yields ran
  cases disconnecting with
  | already apart => exact absurd apart (connection_ne_none linked)
  | released _ => exact ⟨_, _, announces, rfl⟩

-- A round up to where the others look on.
theorem receiveRound_runs :
    ∃ answer acts after reached,
      receiveRound loop.station loop.settings loop.saver loop.patience receiver world =
        ((answer, after), reached) ∧
      Course loop acts (receiver, world) (after, reached) ∧ after.isConnected = true ∧
      ((answer = some (.ok ()) ∧ loop.Round (.asked false :: (acts ++ [.paused]))) ∨
        answer = none ∧ acts = [.waited none []]) := by
  obtain ⟨waited, events, after, reached, announces, still, came⟩ :=
    await_announces loop linked world
  have course : Course loop [.waited waited events] (receiver, world) (after, reached) :=
    course_one announces
  have ran : Receiver.waitForFrame loop.station.toSurroundings (some loop.settings.waitTimeout)
      (Receiver.patienceFor loop.settings.waitTimeout + loop.patience) receiver world =
        ((waited, after), reached) := announces.1
  unfold receiveRound
  rw [Receiver.bind_of_eq ran]
  obtain ⟨error, rfl, rfl⟩ | ⟨rfl, sound⟩ := came
  · exact ⟨_, _, after, reached, rfl, course, still, .inl ⟨rfl, .failed error⟩⟩
  · match waited, sound with
    | none, _ => exact ⟨_, _, after, reached, rfl, course, still, .inr ⟨rfl, rfl⟩⟩
    | some (.error error), sound => exact absurd rfl (sound error)
    | some (.ok false), _ => exact ⟨_, _, after, reached, rfl, course, still, .inl ⟨rfl, .idle⟩⟩
    | some (.ok true), _ =>
      obtain ⟨frames, told, later, copied, takes, tells, connected⟩ :=
        take_announces loop still reached
      obtain ⟨saves, stored, saved, savings, answered⟩ :=
        saveFrames_runs loop later frames copied
      have took : Receiver.extract loop.station.toSurroundings loop.settings.mode after reached =
          ((.ok frames, later), copied) := takes.1
      dsimp only
      rw [Receiver.bind_of_eq took]
      dsimp only
      rw [Receiver.lift_bind, saved]
      have going : Course loop (.waited (some (.ok true)) [] :: .took (.ok frames) told ::
          saving saves) (receiver, world) (later, stored) :=
        ⟨(after, reached), announces, (later, copied), takes, savings⟩
      exact ⟨_, _, later, stored, rfl, going, connected, .inl ⟨rfl, .busy tells answered⟩⟩

variable {loop} in
theorem round_runs (unmeddled : loop.Unmeddled) :
    ∃ answer acts after reached, loop.round receiver world = ((answer, after), reached) ∧
      Course loop acts (receiver, world) (after, reached) ∧ after.isConnected = true ∧
      ((answer = some (.ok ()) ∧ loop.Round (.asked false :: acts)) ∨
        answer = none ∧ acts = [.waited none [], .paused]) := by
  obtain ⟨answer, acts, after, reached, ran, course, still, came⟩ :=
    receiveRound_runs loop linked world
  obtain ⟨subscribers, later, looked⟩ := unmeddled after reached
  have paused : Course loop [.paused] (after, reached) (after.heardBy subscribers, later) :=
    course_one looked
  refine ⟨answer, acts ++ [.paused], after.heardBy subscribers, later, ?_,
    course_join course paused, isConnected_heardBy still subscribers, ?_⟩
  · rw [round, Receiver.bind_of_eq ran, Receiver.bind_of_eq looked]
    rfl
  · obtain ⟨rfl, round⟩ | ⟨rfl, rfl⟩ := came
    · exact .inl ⟨rfl, round⟩
    · exact .inr ⟨rfl, rfl⟩

end Linked

theorem repeat_runs (unmeddled : loop.Unmeddled) (patience : Nat)
    {receiver : Receiver (StateM σ)} (linked : receiver.isConnected = true) (world : σ) :
    ∃ (rounds : List (List Act)) (ending : List Act) (outcome : Option (Except Error Unit))
      (after : Receiver (StateM σ)) (reached : σ),
      repeatUntilStopped loop.station loop.round patience receiver world =
        ((outcome, after), reached) ∧
      Course loop (rounds.flatten ++ ending) (receiver, world) (after, reached) ∧
      (∀ round ∈ rounds, loop.Round round) ∧ Ending patience rounds.length ending outcome ∧
      after.isConnected = true := by
  -- Rounds begin and end connected, so no wait or extraction is refused.
  induction patience generalizing receiver world with
  | zero => exact ⟨[], [], none, receiver, world, rfl, rfl, nofun, .outrun rfl, linked⟩
  | succ patience ih =>
    rw [repeatUntilStopped, Receiver.lift_bind]
    rcases asked : loop.station.stopRequested world with ⟨raised, read⟩
    have reading : (Act.asked raised).Leads loop (receiver, world) (receiver, read) := ⟨asked, rfl⟩
    cases raised with
    | true =>
      exact ⟨[], [.asked true], _, receiver, read, rfl, course_one reading, nofun,
        .stopped (Nat.succ_pos _), linked⟩
    | false =>
      obtain ⟨answer, acts, after, reached, ran, course, still, came⟩ :=
        round_runs linked read unmeddled
      have going : Course loop (.asked false :: acts) (receiver, world) (after, reached) :=
        ⟨_, reading, course⟩
      rw [if_neg Bool.false_ne_true, Receiver.bind_of_eq ran]
      obtain ⟨rfl, round⟩ | ⟨rfl, rfl⟩ := came
      · obtain ⟨rounds, ending, outcome, final, arrived, repeated, later, sound, ends, connected⟩ :=
          ih still reached
        refine ⟨(.asked false :: acts) :: rounds, ending, outcome, final, arrived, repeated, ?_,
          List.forall_mem_cons.mpr ⟨round, sound⟩, ?_, connected⟩
        · rw [List.flatten_cons, List.append_assoc]
          exact course_join going later
        · cases ends with
          | stopped within => exact .stopped (Nat.succ_lt_succ within)
          | stuck within => exact .stuck (Nat.succ_lt_succ within)
          | outrun all => exact .outrun (congrArg Nat.succ all)
      · exact ⟨[], _, none, after, reached, rfl, going, nofun, .stuck (Nat.succ_pos _), still⟩

theorem run_begins (loop : Loop σ) (receiver : Receiver (StateM σ)) (world : σ) :
    ∃ opened, Course loop loop.opening (receiver, world) (receiver, opened) ∧
      loop.run receiver world = loop.untilStopped receiver opened := by
  by_cases never : loop.settings.screenshotEvery = 0
  · refine ⟨(loop.station.log (.receiving loop.settings.mode) world).2, ?_, ?_⟩
    · rw [opening, if_pos never]
      exact course_one ⟨rfl, rfl⟩
    · unfold run receiveLoop
      rw [if_neg (not_not.mpr never)]
      rfl
  · let saving := Notice.savingEvery loop.settings.screenshotEvery loop.settings.screenshotDir
    refine ⟨(loop.station.log (.receiving loop.settings.mode) (loop.station.log saving world).2).2,
      ?_, ?_⟩
    · rw [opening, if_neg never]
      exact ⟨(receiver, (loop.station.log saving world).2), ⟨rfl, rfl⟩, course_one ⟨rfl, rfl⟩⟩
    · unfold run receiveLoop
      rw [if_pos never]
      rfl

theorem run_course (unmeddled : loop.Unmeddled) {receiver : Receiver (StateM σ)}
    (linked : receiver.isConnected = true) (world : σ) :
    ∃ (rounds : List (List Act)) (ending : List Act) (outcome : Option (Except Error Unit))
      (after : Receiver (StateM σ)) (reached : σ),
      loop.run receiver world = ((outcome, after), reached) ∧
      Course loop (loop.opening ++ rounds.flatten ++ ending ++ closing outcome)
        (receiver, world) (after, reached) ∧
      (∀ round ∈ rounds, loop.Round round) ∧ Ending loop.patience rounds.length ending outcome ∧
      after.isConnected = outcome.isNone := by
  obtain ⟨opened, begun, same⟩ := run_begins loop receiver world
  obtain ⟨rounds, ending, outcome, later, stopped, ran, course, sound, ends, still⟩ :=
    repeat_runs unmeddled loop.patience linked opened
  have going : Course loop (loop.opening ++ rounds.flatten ++ ending) (receiver, world)
      (later, stopped) := by
    rw [List.append_assoc]
    exact course_join begun course
  rw [same, untilStopped, Receiver.bind_of_eq ran]
  cases outcome with
  | none =>
    refine ⟨rounds, ending, none, later, stopped, rfl, ?_, sound, ends, still⟩
    rwa [closing, List.append_nil]
  | some answer =>
    obtain ⟨after, reached, leaves, apart⟩ := leave_announces loop still stopped
    have ran : loop.leave later stopped = (((), after), reached) := leaves.1
    refine ⟨rounds, ending, some answer, after, reached, ?_, ?_, sound, ends, ?_⟩
    · rw [Option.isSome_some, if_pos rfl, Receiver.bind_of_eq ran]
      rfl
    · exact course_join going (course_one leaves)
    · exact Receiver.isConnected_eq_false apart

end Run

end Loop

end Demo

end FrameTap
