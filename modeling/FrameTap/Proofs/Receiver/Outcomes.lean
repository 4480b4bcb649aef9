import FrameTap.Proofs.Synchronizer.Polling
import FrameTap.Receiver.Connecting
import FrameTap.Receiver.Delivery
import FrameTap.Receiver.Waiting

set_option autoImplicit false

namespace FrameTap

def ReceiverEvent.ofSession : ReceiverEvent → Bool
  | .frameReceived .. | .sessionReset _ => true
  | _ => false

def Subscriber.hear (event : ReceiverEvent) (subscriber : Subscriber) : Subscriber :=
  { subscriber with inbox := subscriber.inbox ++ [event] }

-- Those who no longer listen are forgotten as soon as there is something to tell.
def informed (subscribers : List Subscriber) (events : List ReceiverEvent) : List Subscriber :=
  events.foldl (fun subscribers event => (subscribers.filter (·.listening)).map (·.hear event))
    subscribers

@[simp] theorem informed_nil (subscribers : List Subscriber) :
    informed subscribers [] = subscribers :=
  rfl

theorem informed_append (subscribers : List Subscriber) (front back : List ReceiverEvent) :
    informed subscribers (front ++ back) = informed (informed subscribers front) back :=
  List.foldl_append

namespace Receiver

variable {σ α β : Type}

def heardBy (receiver : Receiver (StateM σ)) (subscribers : List Subscriber) :
    Receiver (StateM σ) :=
  { receiver with subscribers }

section HeardBy

variable (receiver : Receiver (StateM σ)) (subscribers : List Subscriber)

@[simp] theorem heardBy_self : receiver.heardBy receiver.subscribers = receiver := rfl

@[simp] theorem heardBy_settings :
    (receiver.heardBy subscribers).settings = receiver.settings := rfl

@[simp] theorem heardBy_connection :
    (receiver.heardBy subscribers).connection = receiver.connection := rfl

@[simp] theorem heardBy_statistics :
    (receiver.heardBy subscribers).statistics = receiver.statistics := rfl

@[simp] theorem heardBy_current : (receiver.heardBy subscribers).current = receiver.current := rfl

@[simp] theorem heardBy_subscribers :
    (receiver.heardBy subscribers).subscribers = subscribers := rfl

@[simp] theorem heardBy_subscriptions :
    (receiver.heardBy subscribers).subscriptions = receiver.subscriptions := rfl

end HeardBy

theorem isConnected_eq_true {receiver : Receiver (StateM σ)} {connection : Connection (StateM σ)}
    (linked : receiver.connection = some connection) : receiver.isConnected = true := by
  simp [isConnected, linked]

theorem isConnected_eq_false {receiver : Receiver (StateM σ)}
    (apart : receiver.connection = none) : receiver.isConnected = false := by
  simp [isConnected, apart]

structure Outcome (σ α : Type) where
  value : α
  -- Its subscribers aside.
  receiver : Receiver (StateM σ)
  events : List ReceiverEvent
  world : σ

def Outcome.map (view : α → β) (outcome : Outcome σ α) : Outcome σ β where
  value := view outcome.value
  receiver := outcome.receiver
  events := outcome.events
  world := outcome.world

/-- The action comes to `outcome` whoever listens, and those who do are told its events. -/
def Yields (action : ReceiverM (StateM σ) α) (receiver : Receiver (StateM σ)) (world : σ)
    (outcome : Outcome σ α) : Prop :=
  ∀ subscribers, action (receiver.heardBy subscribers) world =
    ((outcome.value, outcome.receiver.heardBy (informed subscribers outcome.events)),
      outcome.world)

theorem get_bind (rest : Receiver (StateM σ) → ReceiverM (StateM σ) α)
    (receiver : Receiver (StateM σ)) (world : σ) :
    (get >>= rest) receiver world = rest receiver receiver world :=
  rfl

theorem lift_bind (action : StateM σ β) (rest : β → ReceiverM (StateM σ) α)
    (receiver : Receiver (StateM σ)) (world : σ) :
    (liftM action >>= rest) receiver world = rest (action world).1 receiver (action world).2 :=
  rfl

theorem bind_of_eq {action : ReceiverM (StateM σ) β} {receiver after : Receiver (StateM σ)}
    {world reached : σ} {value : β} (ran : action receiver world = ((value, after), reached))
    (rest : β → ReceiverM (StateM σ) α) :
    (action >>= rest) receiver world = rest value after reached := by
  change rest (action receiver world).1.1 (action receiver world).1.2 (action receiver world).2 = _
  rw [ran]

section Rules

variable {receiver : Receiver (StateM σ)} {world : σ}

theorem Yields.pure (value : α) :
    Yields (pure value) receiver world ⟨value, receiver, [], world⟩ :=
  fun _ => rfl

theorem Yields.bind {action : ReceiverM (StateM σ) β} {rest : β → ReceiverM (StateM σ) α}
    {value : β} {result : α} {middle final : Receiver (StateM σ)}
    {events later : List ReceiverEvent} {reached after : σ}
    (begun : Yields action receiver world ⟨value, middle, events, reached⟩)
    (ended : Yields (rest value) middle reached ⟨result, final, later, after⟩) :
    Yields (action >>= rest) receiver world ⟨result, final, events ++ later, after⟩ := by
  intro subscribers
  rw [bind_of_eq (begun subscribers), ended, informed_append]

theorem Yields.map {action : ReceiverM (StateM σ) β} {outcome : Outcome σ β}
    (ran : Yields action receiver world outcome) (view : β → α) :
    Yields (action >>= fun value => Pure.pure (view value)) receiver world (outcome.map view) := by
  intro subscribers
  rw [bind_of_eq (ran subscribers)]
  rfl

variable (receiver world) in
theorem Yields.lift (action : StateM σ α) :
    Yields (liftM action) receiver world
      ⟨(action world).1, receiver, [], (action world).2⟩ :=
  fun _ => rfl

theorem Yields.modify {change : Receiver (StateM σ) → Receiver (StateM σ)}
    (apart : ∀ subscribers,
      change (receiver.heardBy subscribers) = (change receiver).heardBy subscribers) :
    Yields (modify change) receiver world ⟨(), change receiver, [], world⟩ := by
  intro subscribers
  rw [informed_nil, ← apart]
  rfl

theorem Yields.emit (event : ReceiverEvent) :
    Yields (emit event) receiver world ⟨(), receiver, [event], world⟩ :=
  fun _ => rfl

variable (receiver world) in
theorem Yields.report (env : Surroundings (StateM σ)) (error : Error) :
    ∃ reached, Yields (report env error) receiver world
      ⟨(), receiver, [.error error.message], reached⟩ :=
  ⟨(env.log (.failed error) world).2, fun _ => rfl⟩

variable (receiver world) in
theorem Yields.logAll (env : Surroundings (StateM σ)) (notices : List Notice) :
    ∃ reached, Yields (logAll env notices) receiver world ⟨(), receiver, [], reached⟩ := by
  induction notices generalizing world with
  | nil => exact ⟨world, Yields.pure ()⟩
  | cons notice rest ih =>
    obtain ⟨reached, later⟩ := ih (env.log notice world).2
    exact ⟨reached, Yields.bind (Yields.lift receiver world (env.log notice)) later⟩

def frameEvents (frames : List Frame) : List ReceiverEvent :=
  frames.map fun frame => .frameReceived frame.frameNumber frame.slot

theorem Yields.emitFrames (frames : List Frame) :
    Yields (emitFrames frames) receiver world ⟨(), receiver, frameEvents frames, world⟩ := by
  induction frames with
  | nil => exact Yields.pure ()
  | cons frame rest ih =>
    rw [Receiver.emitFrames]
    exact Yields.bind (Yields.emit _) ih

def resetEvents (reset : Option SessionReset) : List ReceiverEvent :=
  reset.toList.map .sessionReset

theorem Yields.emitReset (reset : Option SessionReset) :
    Yields (emitReset reset) receiver world ⟨(), receiver, resetEvents reset, world⟩ := by
  cases reset with
  | none => exact Yields.pure ()
  | some reset => exact Yields.emit _

end Rules

-- The receiver once it has accounted for an extraction and keeps its last frame.
def taken (receiver : Receiver (StateM σ)) (now : Nanoseconds) (extraction : Extraction) :
    Receiver (StateM σ) :=
  match extraction.frames.getLast? with
  | none => receiver.counted now extraction
  | some last => (receiver.counted now extraction).showing last

theorem Yields.deliver (env : Surroundings (StateM σ)) (extraction : Extraction)
    (receiver : Receiver (StateM σ)) (world : σ) :
    ∃ now reached, Yields (deliver env extraction) receiver world
      ⟨extraction.frames, receiver.taken now extraction,
        resetEvents extraction.reset ++ frameEvents extraction.frames, reached⟩ := by
  unfold Receiver.deliver taken
  rcases clock : env.now world with ⟨now, read⟩
  have ticked : Yields (liftM env.now) receiver world ⟨now, receiver, [], read⟩ := by
    have lifted := Yields.lift receiver world env.now
    rwa [clock] at lifted
  cases ending : extraction.frames.getLast? with
  | none =>
    rw [List.getLast?_eq_none_iff.mp ending]
    refine ⟨now, read, ?_⟩
    refine Yields.bind (Yields.emitReset extraction.reset) ?_
    refine Yields.bind ticked ?_
    exact Yields.bind (Yields.modify fun _ => rfl) (Yields.pure [])
  | some last =>
    let notice := Notice.delivered extraction.frames.length last.frameNumber extraction.dropped
    refine ⟨now, (env.log notice read).2, ?_⟩
    refine Yields.bind (Yields.emitReset extraction.reset) ?_
    refine Yields.bind ticked ?_
    refine Yields.bind (Yields.modify fun _ => rfl) ?_
    dsimp only
    refine Yields.bind (Yields.lift _ _ (env.log notice)) ?_
    refine Yields.bind (Yields.modify fun _ => rfl) ?_
    exact Yields.map (Yields.emitFrames extraction.frames) fun _ => extraction.frames

theorem openConnection_starts {env : Surroundings (StateM σ)} {settings : ReceiverSettings}
    {connection : Connection (StateM σ)} {header : Header} {world reached : σ}
    (opened : openConnection env settings world = (.ok (connection, header), reached)) :
    connection.sync = Synchronizer.start header.protocol := by
  rw [openConnection] at opened
  rcases found : Region.openAt env (place settings) world with ⟨region?, mapped⟩
  rw [StateM.bind_of_eq found] at opened
  cases region? with
  | error error => cases opened
  | ok region =>
    dsimp only at opened
    rcases heard : openEvent env settings.eventName mapped with ⟨event, hooked⟩
    rw [StateM.bind_of_eq heard] at opened
    rcases scan : region.source.readHeader hooked with ⟨header?, scanned⟩
    rw [StateM.bind_of_eq scan] at opened
    cases header? with
    | error error => cases opened
    | ok shown =>
      dsimp only at opened
      rcases size : region.source.length scanned with ⟨length, measured⟩
      rw [StateM.bind_of_eq size] at opened
      cases layout : shown.validateLayout length with
      | error fault =>
        rw [layout] at opened
        cases opened
      | ok accepted =>
        rw [layout] at opened
        cases opened
        rfl

inductive Connecting (receiver : Receiver (StateM σ)) (world : σ) :
    Outcome σ (Except Error Unit) → Prop
  | already (connected : receiver.isConnected = true) :
      Connecting receiver world ⟨.ok (), receiver, [], world⟩
  | refused {error : Error} {reached : σ} (apart : receiver.connection = none) :
      Connecting receiver world ⟨.error error, receiver, [.error error.message], reached⟩
  | established {connection : Connection (StateM σ)} {now : Nanoseconds} {header : Header}
      {reached : σ} (apart : receiver.connection = none)
      (fresh : connection.sync = Synchronizer.start header.protocol) :
      Connecting receiver world
        ⟨.ok (), receiver.established connection now,
          [.connected header.picture.width header.picture.height header.protocol
            connection.event.isNone], reached⟩

section Connect

variable {env : Surroundings (StateM σ)} {receiver : Receiver (StateM σ)} {world reached : σ}

variable (env world) in
theorem connect_of_connected (connected : receiver.isConnected = true) :
    Yields (connect env) receiver world ⟨.ok (), receiver, [], world⟩ := by
  intro subscribers
  have still : (receiver.heardBy subscribers).isConnected = true := connected
  rw [connect, get_bind, if_pos still]
  rfl

variable (apart : receiver.connection = none)

include apart

-- The settings, and so what is opened, are the same whoever listens.
theorem connect_of_refused {error : Error}
    (refused : openConnection env receiver.settings world = (.error error, reached)) :
    ∃ told, Yields (connect env) receiver world
      ⟨.error error, receiver, [.error error.message], told⟩ := by
  obtain ⟨told, report⟩ := Yields.report receiver reached env error
  refine ⟨told, fun subscribers => ?_⟩
  have still : (receiver.heardBy subscribers).isConnected = false := isConnected_eq_false apart
  rw [connect, get_bind, still, if_neg Bool.false_ne_true, lift_bind, heardBy_settings, refused]
  exact report.map (fun _ => Except.error error) subscribers

theorem connect_of_opened {connection : Connection (StateM σ)} {header : Header}
    (opened : openConnection env receiver.settings world = (.ok (connection, header), reached)) :
    ∃ now told, Yields (connect env) receiver world
      ⟨.ok (), receiver.established connection now,
        [.connected header.picture.width header.picture.height header.protocol
          connection.event.isNone], told⟩ := by
  let notice := Notice.connected connection.region.name header.picture header.protocol
    connection.event.isNone
  rcases clock : env.now (env.log notice reached).2 with ⟨now, read⟩
  refine ⟨now, read, fun subscribers => ?_⟩
  have still : (receiver.heardBy subscribers).isConnected = false := isConnected_eq_false apart
  rw [connect, get_bind, still, if_neg Bool.false_ne_true, lift_bind, heardBy_settings, opened]
  dsimp only
  rw [lift_bind, lift_bind, clock]
  rfl

end Connect

theorem connect_yields (env : Surroundings (StateM σ)) (receiver : Receiver (StateM σ))
    (world : σ) :
    ∃ outcome, Yields (connect env) receiver world outcome ∧ Connecting receiver world outcome := by
  cases linked : receiver.connection with
  | some connection =>
    have connected := isConnected_eq_true linked
    exact ⟨_, connect_of_connected env world connected, .already connected⟩
  | none =>
    rcases opened : openConnection env receiver.settings world with ⟨answer, reached⟩
    cases answer with
    | error error =>
      obtain ⟨told, ran⟩ := connect_of_refused linked opened
      exact ⟨_, ran, .refused linked⟩
    | ok answer =>
      obtain ⟨now, told, ran⟩ := connect_of_opened linked opened
      exact ⟨_, ran, .established linked (openConnection_starts opened)⟩

inductive Disconnecting (receiver : Receiver (StateM σ)) (world : σ) : Outcome σ Unit → Prop
  | already (apart : receiver.connection = none) :
      Disconnecting receiver world ⟨(), receiver, [], world⟩
  | released {connection : Connection (StateM σ)} {reached : σ}
      (linked : receiver.connection = some connection) :
      Disconnecting receiver world ⟨(), receiver.released, [.disconnected], reached⟩

theorem disconnect_yields (env : Surroundings (StateM σ)) (receiver : Receiver (StateM σ))
    (world : σ) :
    ∃ outcome, Yields (disconnect env) receiver world outcome ∧
      Disconnecting receiver world outcome := by
  cases linked : receiver.connection with
  | none =>
    refine ⟨⟨(), receiver, [], world⟩, ?_, .already linked⟩
    intro subscribers
    rw [disconnect, get_bind, heardBy_connection, linked]
    rfl
  | some connection =>
    let notice := Notice.disconnected connection.sync.lastConsumed receiver.statistics.received
      receiver.statistics.dropped
    refine ⟨⟨(), receiver.released, [.disconnected], (env.log notice world).2⟩, ?_,
      .released linked⟩
    intro subscribers
    rw [disconnect, get_bind, heardBy_connection, linked]
    rfl

inductive Extracting (receiver : Receiver (StateM σ)) (mode : ExtractMode) (world : σ) :
    Outcome σ (Except Error (List Frame)) → Prop
  | apart (apart : receiver.connection = none) :
      Extracting receiver mode world ⟨.error .notConnected, receiver, [], world⟩
  | failed {connection : Connection (StateM σ)} {poll : Poll} {error : Error} {reached : σ}
      (linked : receiver.connection = some connection)
      (made : (connection.sync.poll connection.region.source mode world).1 = poll)
      (result : poll.attempt.result = .error error) :
      Extracting receiver mode world
        ⟨.ok [], receiver.advanced connection poll.attempt.next, [.error error.message], reached⟩
  | delivered {connection : Connection (StateM σ)} {poll : Poll} {extraction : Extraction}
      {now : Nanoseconds} {reached : σ} (linked : receiver.connection = some connection)
      (made : (connection.sync.poll connection.region.source mode world).1 = poll)
      (result : poll.attempt.result = .ok extraction) :
      Extracting receiver mode world
        ⟨.ok extraction.frames,
          (receiver.advanced connection poll.attempt.next).taken now extraction,
          resetEvents extraction.reset ++ frameEvents extraction.frames, reached⟩

def conclude (env : Surroundings (StateM σ)) :
    Except Error Extraction → ReceiverM (StateM σ) (Except Error (List Frame))
  | .ok extraction => deliver env extraction >>= fun frames => pure (.ok frames)
  | .error error => report env error >>= fun _ => pure (.ok [])

theorem extract_yields (env : Surroundings (StateM σ)) (mode : ExtractMode)
    (receiver : Receiver (StateM σ)) (world : σ) :
    ∃ outcome, Yields (extract env mode) receiver world outcome ∧
      Extracting receiver mode world outcome := by
  cases linked : receiver.connection with
  | none =>
    refine ⟨⟨.error .notConnected, receiver, [], world⟩, ?_, .apart linked⟩
    intro subscribers
    rw [extract, get_bind, heardBy_connection, linked]
    rfl
  | some connection =>
    rcases made : connection.sync.poll connection.region.source mode world with ⟨poll, copied⟩
    have run : connection.sync.extract connection.region.source mode world =
        (poll.attempt, copied) := by
      rw [Synchronizer.poll] at made
      cases made
      rfl
    obtain ⟨logged, spoken⟩ := Yields.logAll receiver copied env poll.attempt.notices
    -- The attempt is the same whoever listens, and what follows hangs on its result.
    have start : ∀ subscribers, extract env mode (receiver.heardBy subscribers) world =
        (modify (·.advanced connection poll.attempt.next) >>= fun _ =>
          conclude env poll.attempt.result) (receiver.heardBy subscribers) logged := by
      intro subscribers
      rw [extract, get_bind, heardBy_connection, linked]
      dsimp only
      rw [lift_bind, run, bind_of_eq (spoken subscribers)]
      rfl
    cases result : poll.attempt.result with
    | error error =>
      obtain ⟨told, report⟩ :=
        Yields.report (receiver.advanced connection poll.attempt.next) logged env error
      refine ⟨⟨.ok [], receiver.advanced connection poll.attempt.next, _, told⟩, ?_,
        .failed linked (congrArg Prod.fst made) result⟩
      intro subscribers
      rw [start, result]
      exact Yields.bind (Yields.modify fun _ => rfl) (report.map fun _ => Except.ok []) subscribers
    | ok extraction =>
      obtain ⟨now, told, delivery⟩ :=
        Yields.deliver env extraction (receiver.advanced connection poll.attempt.next) logged
      refine ⟨⟨_, (receiver.advanced connection poll.attempt.next).taken now extraction, _, told⟩,
        ?_, .delivered linked (congrArg Prod.fst made) result⟩
      intro subscribers
      rw [start, result]
      exact Yields.bind (Yields.modify fun _ => rfl) (delivery.map Except.ok) subscribers

inductive Waiting (receiver : Receiver (StateM σ)) (world : σ) :
    Outcome σ (Option (Except Error Bool)) → Prop
  | apart (apart : receiver.connection = none) :
      Waiting receiver world ⟨some (.error .notConnected), receiver, [], world⟩
  | failed {error : Error} {reached : σ} (linked : receiver.isConnected = true) :
      Waiting receiver world ⟨some (.ok false), receiver, [.error error.message], reached⟩
  | answered {answer : Option (Except Error Bool)} {reached : σ}
      (linked : receiver.isConnected = true) (sound : ∀ error, answer ≠ some (.error error)) :
      Waiting receiver world ⟨answer, receiver, [], reached⟩

theorem waitForFrame_of_failed {env : Surroundings (StateM σ)} {timeout : Option Nanoseconds}
    {patience : Nat} {receiver : Receiver (StateM σ)} {connection : Connection (StateM σ)}
    {error : Error} {world reached : σ} (linked : receiver.connection = some connection)
    (failed : connection.wait env timeout receiver.settings.pollInterval patience world =
      (some (.error error), reached)) :
    ∃ told, Yields (waitForFrame env timeout patience) receiver world
      ⟨some (.ok false), receiver, [.error error.message], told⟩ := by
  obtain ⟨told, report⟩ := Yields.report receiver reached env error
  refine ⟨told, fun subscribers => ?_⟩
  rw [waitForFrame, get_bind, heardBy_connection, linked]
  dsimp only
  rw [lift_bind, heardBy_settings, failed]
  exact report.map (fun _ => some (Except.ok false)) subscribers

theorem waitForFrame_yields (env : Surroundings (StateM σ)) (timeout : Option Nanoseconds)
    (patience : Nat) (receiver : Receiver (StateM σ)) (world : σ) :
    ∃ outcome, Yields (waitForFrame env timeout patience) receiver world outcome ∧
      Waiting receiver world outcome := by
  cases linked : receiver.connection with
  | none =>
    refine ⟨⟨some (.error .notConnected), receiver, [], world⟩, ?_, .apart linked⟩
    intro subscribers
    rw [waitForFrame, get_bind, heardBy_connection, linked]
    rfl
  | some connection =>
    have connected := isConnected_eq_true linked
    rcases waited : connection.wait env timeout receiver.settings.pollInterval patience world with
      ⟨answer, reached⟩
    match answer, waited with
    | some (.error error), waited =>
      obtain ⟨told, ran⟩ := waitForFrame_of_failed linked waited
      exact ⟨_, ran, .failed connected⟩
    | some (.ok pending), waited =>
      refine ⟨⟨some (.ok pending), receiver, [], reached⟩, ?_, .answered connected nofun⟩
      intro subscribers
      rw [waitForFrame, get_bind, heardBy_connection, linked]
      dsimp only
      rw [lift_bind, heardBy_settings, waited]
      rfl
    | none, waited =>
      refine ⟨⟨none, receiver, [], reached⟩, ?_, .answered connected nofun⟩
      intro subscribers
      rw [waitForFrame, get_bind, heardBy_connection, linked]
      dsimp only
      rw [lift_bind, heardBy_settings, waited]
      rfl

theorem frameInfo_yields (receiver : Receiver (StateM σ)) (world : σ) :
    ∃ answer reached, Yields frameInfo receiver world ⟨answer, receiver, [], reached⟩ := by
  cases linked : receiver.connection with
  | none =>
    refine ⟨.error .notConnected, world, ?_⟩
    intro subscribers
    rw [frameInfo, get_bind, heardBy_connection, linked]
    rfl
  | some connection =>
    refine ⟨(connection.region.source.readHeader world).1,
      (connection.region.source.readHeader world).2, ?_⟩
    intro subscribers
    rw [frameInfo, get_bind, heardBy_connection, linked]
    rfl

end Receiver

end FrameTap
