import FrameTap.Receiver.Connecting
import FrameTap.Receiver.Delivery
import FrameTap.Receiver.Waiting

set_option autoImplicit false

namespace FrameTap

structure EffectLaw (m : Type → Type) [Monad m] where
  Holds : {α : Type} → (α → Prop) → m α → Prop
  pure : ∀ {α : Type} {good : α → Prop} {value : α}, good value → Holds good (pure value)
  bind : ∀ {α β : Type} {middle : β → Prop} {good : α → Prop} {action : m β} {rest : β → m α},
    Holds middle action → (∀ value, middle value → Holds good (rest value)) →
    Holds good (action >>= rest)

-- Why a frame could not be saved, where that is what is said.
def Notice.complaint? : Notice → Option Error
  | .saveFailed error => some error
  | _ => none

namespace EffectLaw

variable {m : Type → Type} [Monad m] {law : EffectLaw m} {α β : Type}

-- The law of actions that leave a view of the world as it was.
def sparing {σ γ : Type} (view : σ → γ) : EffectLaw (StateM σ) where
  Holds good action := ∀ world, view (action world).2 = view world ∧ good (action world).1
  pure fine _ := ⟨rfl, fine⟩
  bind first next world := by
    obtain ⟨spared, fine⟩ := first world
    obtain ⟨later, finished⟩ := next _ fine (_ : σ)
    exact ⟨later.trans spared, finished⟩

abbrev Free (law : EffectLaw m) (action : m α) : Prop := law.Holds (fun _ => True) action

-- The law holds of every use of the source.
structure Reads (law : EffectLaw m) (source : Source m) : Prop where
  length : law.Free source.length
  copyOut : ∀ offset length, law.Free (source.copyOut offset length)

structure Takes (law : EffectLaw m) (semaphore : Semaphore m) : Prop where
  take : law.Free semaphore.take
  takeBefore : ∀ deadline, law.Free (semaphore.takeBefore deadline)
  tryTake : law.Free semaphore.tryTake

structure Serves (law : EffectLaw m) (env : Surroundings m) : Prop where
  now : law.Free env.now
  wallClock : law.Free env.wallClock
  sleep : ∀ time, law.Free (env.sleep time)
  log : ∀ notice, notice.complaint? = none → law.Free (env.log notice)

section Reads

variable {source : Source m} (reads : law.Reads source)

include reads

theorem Reads.readHeader : law.Free source.readHeader := by
  unfold Source.readHeader
  refine law.bind reads.length fun length _ => law.bind (reads.copyOut _ _) fun answer _ => ?_
  cases answer <;> exact law.pure trivial

theorem Reads.stillCurrent (candidate : Candidate) : law.Free (source.stillCurrent candidate) := by
  unfold Source.stillCurrent
  refine law.bind reads.readHeader fun answer _ => ?_
  cases answer <;> exact law.pure trivial

theorem Reads.checkBounds (candidates : List Candidate) :
    law.Free (source.checkBounds candidates) := by
  induction candidates with
  | nil => exact law.pure trivial
  | cons candidate rest ih =>
    unfold Source.checkBounds
    refine law.bind reads.length fun length _ => ?_
    split
    · exact ih
    · exact law.bind reads.length fun _ _ => law.pure trivial

theorem Reads.copyCandidates (header : Header) (candidates : List Candidate) (haul : Haul) :
    law.Free (source.copyCandidates header candidates haul) := by
  induction candidates generalizing haul with
  | nil => exact law.pure trivial
  | cons candidate rest ih =>
    unfold Source.copyCandidates
    refine law.bind (reads.copyOut _ _) fun answer _ => ?_
    cases answer with
    | error error => exact law.pure trivial
    | ok data =>
      refine law.bind (reads.stillCurrent candidate) fun verdict _ => ?_
      cases verdict with
      | error error => exact law.pure trivial
      | ok current => cases current <;> exact ih _

end Reads

theorem selectionNotices_quiet (sync : Synchronizer) (selection : Selection) :
    ∀ notice ∈ sync.selectionNotices selection, notice.complaint? = none := by
  unfold Synchronizer.selectionNotices
  cases selection.reset with
  | none => nofun
  | some reset => simp [Notice.complaint?]

theorem Reads.extract {source : Source m} (reads : law.Reads source) (sync : Synchronizer)
    (mode : ExtractMode) :
    law.Holds (fun attempt => ∀ notice ∈ attempt.notices, notice.complaint? = none)
      (sync.extract source mode) := by
  unfold Synchronizer.extract
  refine law.bind reads.readHeader fun answer _ => ?_
  cases answer with
  | error error => exact law.pure nofun
  | ok header =>
    dsimp only
    have opening := selectionNotices_quiet sync (sync.select mode header)
    cases sync.checkProtocol header with
    | error error => exact law.pure nofun
    | ok agreed =>
      refine law.bind (reads.checkBounds _) fun verdict _ => ?_
      cases verdict with
      | error error => exact law.pure opening
      | ok inside =>
        refine law.bind (reads.copyCandidates header _ _) fun copied _ => ?_
        obtain ⟨haul, failure⟩ := copied
        have quiet : ∀ notice ∈ sync.selectionNotices (sync.select mode header) ++
            haul.overwritten.map Notice.overwritten, notice.complaint? = none := by
          refine List.forall_mem_append.mpr ⟨opening, ?_⟩
          simp [Notice.complaint?]
        cases failure <;> exact law.pure quiet

section Events

variable {env : Surroundings m} (serves : law.Serves env) {event : Event m}
  (takes : law.Takes event.semaphore)

theorem takeThrough_free {take : m (Except SystemFault Take)} (free : law.Free take)
    (patience : Nat) : law.Free (Event.takeThrough take patience) := by
  induction patience with
  | zero => exact law.pure trivial
  | succ patience ih =>
    unfold Event.takeThrough
    refine law.bind free fun answer _ => ?_
    match answer with
    | .error fault | .ok .taken | .ok .empty => exact law.pure trivial
    | .ok .interrupted => exact ih

section Draining

variable (tryTake : law.Free event.semaphore.tryTake)

include tryTake

theorem takeNow_free : law.Free event.takeNow := by
  unfold Event.takeNow
  refine law.bind tryTake fun answer _ => ?_
  match answer with
  | .error fault | .ok .taken | .ok .empty | .ok .interrupted => exact law.pure trivial

theorem drain_free (patience : Nat) : law.Free (event.drain patience) := by
  induction patience with
  | zero => exact law.pure trivial
  | succ patience ih =>
    unfold Event.drain
    refine law.bind (takeNow_free tryTake) fun answer _ => ?_
    match answer with
    | .error error | .ok false => exact law.pure trivial
    | .ok true => exact ih

end Draining

include takes

include serves

theorem Takes.awaitSignal (timeout : Option Nanoseconds) (patience : Nat) :
    law.Free (event.awaitSignal env timeout patience) := by
  match timeout with
  | none => exact takeThrough_free takes.take patience
  | some 0 => exact law.bind (takeNow_free takes.tryTake) fun _ _ => law.pure trivial
  | some (timeout + 1) =>
    exact law.bind serves.wallClock fun now _ => takeThrough_free (takes.takeBefore _) patience

theorem Takes.wait (timeout : Option Nanoseconds) (patience : Nat) :
    law.Free (event.wait env timeout patience) := by
  unfold Event.wait
  refine law.bind (takes.awaitSignal serves timeout patience) fun answer _ => ?_
  match answer with
  | none | some (.error error) | some (.ok false) => exact law.pure trivial
  | some (.ok true) =>
    refine law.bind (drain_free takes.tryTake patience) fun drained _ => ?_
    match drained with
    | none | some (.error error) | some (.ok ()) => exact law.pure trivial

end Events

-- The law holds of every use of the region and of the event.
structure Joins (law : EffectLaw m) (connection : Connection m) : Prop where
  reads : law.Reads connection.region.source
  takes : ∀ event ∈ connection.event, law.Takes event.semaphore

section Waits

variable {env : Surroundings m} (serves : law.Serves env) {connection : Connection m}
  (joins : law.Joins connection)

include serves in
theorem Serves.remaining (deadline : Option Nanoseconds) :
    law.Free (Connection.remaining env deadline) := by
  cases deadline with
  | none => exact law.pure trivial
  | some deadline => exact law.bind serves.now fun now _ => law.pure trivial

include joins

theorem Joins.framePending : law.Free connection.framePending := by
  unfold Connection.framePending
  refine law.bind joins.reads.readHeader fun answer _ => ?_
  cases answer with
  | error error => exact law.pure trivial
  | ok header =>
    dsimp only
    cases connection.sync.checkProtocol header <;> exact law.pure trivial

include serves

theorem Joins.pause (pollInterval : Nanoseconds) (remaining : Option Nanoseconds)
    (patience : Nat) : law.Free (connection.pause env pollInterval remaining patience) := by
  unfold Connection.pause
  cases found : connection.event with
  | some event => exact (joins.takes event found).wait serves remaining patience
  | none =>
    cases remaining <;> exact law.bind (serves.sleep _) fun _ _ => law.pure trivial

theorem Joins.waitRounds (pollInterval : Nanoseconds) (deadline : Option Nanoseconds)
    (patience : Nat) : law.Free (connection.waitRounds env pollInterval deadline patience) := by
  induction patience with
  | zero => exact law.pure trivial
  | succ patience ih =>
    unfold Connection.waitRounds
    refine law.bind (serves.remaining deadline) fun left _ => ?_
    cases left with
    | none => exact law.pure trivial
    | some left =>
      refine law.bind (joins.pause serves pollInterval left (patience + 1)) fun answer _ => ?_
      match answer with
      | none | some (.error error) | some (.ok false) => exact law.pure trivial
      | some (.ok true) =>
        refine law.bind joins.framePending fun pending _ => ?_
        match pending with
        | .error error | .ok true => exact law.pure trivial
        | .ok false => exact ih

theorem Joins.wait (timeout : Option Nanoseconds) (pollInterval : Nanoseconds) (patience : Nat) :
    law.Free (connection.wait env timeout pollInterval patience) := by
  unfold Connection.wait
  refine law.bind joins.framePending fun pending _ => ?_
  match pending with
  | .error error | .ok true => exact law.pure trivial
  | .ok false =>
    match timeout with
    | none => exact joins.waitRounds serves pollInterval none patience
    | some 0 => exact law.pure trivial
    | some (timeout + 1) =>
      exact law.bind serves.now fun now _ => joins.waitRounds serves pollInterval _ patience

end Waits

def Linked (fit : Connection m → Prop) (receiver : Receiver m) : Prop :=
  ∀ connection ∈ receiver.connection, fit connection

/-- The law holds of the action, which connects the receiver to nothing unfit. -/
def Keeps (law : EffectLaw m) (fit : Connection m → Prop) (action : ReceiverM m α) : Prop :=
  ∀ receiver, Linked fit receiver → law.Holds (fun outcome => Linked fit outcome.2)
    (action receiver)

section Keeps

variable {fit : Connection m → Prop}

theorem Keeps.pure (value : α) : law.Keeps fit (Pure.pure value) := fun _ linked => law.pure linked

theorem Keeps.bind {action : ReceiverM m β} {rest : β → ReceiverM m α}
    (first : law.Keeps fit action) (next : ∀ value, law.Keeps fit (rest value)) :
    law.Keeps fit (action >>= rest) :=
  fun receiver linked => law.bind (first receiver linked) fun outcome still =>
    next outcome.1 outcome.2 still

theorem Keeps.lift {action : m α} (free : law.Free action) : law.Keeps fit (liftM action) :=
  fun _ linked => law.bind free fun _ _ => law.pure linked

theorem Keeps.set {receiver : Receiver m} (linked : Linked fit receiver) :
    law.Keeps fit (set receiver) :=
  fun _ _ => law.pure linked

theorem Keeps.modify {change : Receiver m → Receiver m}
    (stays : ∀ receiver, Linked fit receiver → Linked fit (change receiver)) :
    law.Keeps fit (modify change) :=
  fun receiver linked => law.pure (stays receiver linked)

variable [LawfulMonad m]

theorem Keeps.get_bind {rest : Receiver m → ReceiverM m α}
    (each : ∀ receiver, Linked fit receiver → law.Keeps fit (rest receiver)) :
    law.Keeps fit (get >>= rest) := by
  intro receiver linked
  change law.Holds _ (Pure.pure (receiver, receiver) >>= fun outcome => rest outcome.1 outcome.2)
  rw [pure_bind]
  exact each receiver linked receiver linked

theorem Keeps.lift_bind {action : m β} {good : β → Prop} {rest : β → ReceiverM m α}
    (holds : law.Holds good action) (each : ∀ value, good value → law.Keeps fit (rest value)) :
    law.Keeps fit (liftM action >>= rest) := by
  intro receiver linked
  change law.Holds _ ((action >>= fun value => Pure.pure (value, receiver)) >>=
    fun outcome => rest outcome.1 outcome.2)
  rw [bind_assoc]
  simp only [pure_bind]
  exact law.bind holds fun value fine => each value fine receiver linked

end Keeps

section Requests

variable {env : Surroundings m} (serves : law.Serves env) {fit : Connection m → Prop}

theorem emit_keeps (event : ReceiverEvent) : law.Keeps fit (Receiver.emit event) :=
  .modify fun _ linked => linked

theorem emitFrames_keeps (frames : List Frame) : law.Keeps fit (Receiver.emitFrames frames) := by
  induction frames with
  | nil => exact .pure ()
  | cons frame rest ih => exact (emit_keeps _).bind fun _ => ih

theorem emitReset_keeps (reset : Option SessionReset) :
    law.Keeps fit (Receiver.emitReset reset) := by
  cases reset with
  | none => exact .pure ()
  | some reset => exact emit_keeps _

variable [LawfulMonad m]

include serves

theorem Serves.report_keeps (error : Error) : law.Keeps fit (Receiver.report env error) :=
  .lift_bind (serves.log _ rfl) fun _ _ => emit_keeps _

theorem Serves.logAll_keeps {notices : List Notice}
    (quiet : ∀ notice ∈ notices, notice.complaint? = none) :
    law.Keeps fit (Receiver.logAll env notices) := by
  induction notices with
  | nil => exact .pure ()
  | cons notice rest ih =>
    obtain ⟨first, others⟩ := List.forall_mem_cons.mp quiet
    exact .lift_bind (serves.log notice first) fun _ _ => ih others

theorem Serves.deliver_keeps (extraction : Extraction) :
    law.Keeps fit (Receiver.deliver env extraction) := by
  unfold Receiver.deliver
  refine (emitReset_keeps _).bind fun _ => .lift_bind serves.now fun now _ => ?_
  refine Keeps.bind (.modify fun _ linked => linked) fun _ => ?_
  cases extraction.frames.getLast? with
  | none => exact .pure []
  | some last =>
    refine .lift_bind (serves.log _ rfl) fun _ _ => ?_
    refine Keeps.bind (.modify fun _ linked => linked) fun _ => ?_
    exact (emitFrames_keeps _).bind fun _ => .pure _

theorem Serves.extract_keeps
    (reads : ∀ connection, fit connection → law.Reads connection.region.source)
    (goesOn : ∀ connection sync, fit connection → fit { connection with sync })
    (mode : ExtractMode) : law.Keeps fit (Receiver.extract env mode) := by
  unfold Receiver.extract
  refine .get_bind fun receiver linked => ?_
  match found : receiver.connection with
  | none => exact .pure _
  | some connection =>
    have joined : fit connection := linked connection found
    refine .lift_bind ((reads connection joined).extract connection.sync mode)
      fun attempt quiet => ?_
    refine (serves.logAll_keeps quiet).bind fun _ => Keeps.bind (.modify ?_) fun _ => ?_
    · rintro receiver - _ ⟨⟩
      exact goesOn connection _ joined
    · cases attempt.result with
      | error error => exact (serves.report_keeps error).bind fun _ => .pure _
      | ok extraction => exact (serves.deliver_keeps extraction).bind fun _ => .pure _

theorem Serves.disconnect_keeps : law.Keeps fit (Receiver.disconnect env) := by
  unfold Receiver.disconnect
  refine .get_bind fun receiver linked => ?_
  cases receiver.connection with
  | none => exact .pure ()
  | some connection =>
    have released : Linked fit receiver.released := nofun
    exact Keeps.bind (.set released) fun _ => .lift_bind (serves.log _ rfl) fun _ _ => emit_keeps _

theorem Serves.waitForFrame_keeps (joins : ∀ connection, fit connection → law.Joins connection)
    (timeout : Option Nanoseconds) (patience : Nat) :
    law.Keeps fit (Receiver.waitForFrame env timeout patience) := by
  unfold Receiver.waitForFrame
  refine .get_bind fun receiver linked => ?_
  match found : receiver.connection with
  | none => exact .pure _
  | some connection =>
    have joined : law.Joins connection := joins connection (linked connection found)
    refine .lift_bind (joined.wait serves timeout receiver.settings.pollInterval patience)
      fun answer _ => ?_
    match answer with
    | none | some (.ok pending) => exact .pure _
    | some (.error error) => exact (serves.report_keeps error).bind fun _ => .pure _

end Requests

end EffectLaw

end FrameTap
