import FrameTap.Proofs.Signals.Attached
import FrameTap.Proofs.Synchronizer.Pending

set_option autoImplicit false

namespace FrameTap

open Dialogue

variable {size : Nat}

def Connection.Quiet (connection : Connection Dialogue) (bytes : Bytes) : Prop :=
  connection.sync.pending bytes = .ok false

section Waits

variable {quiet : Bytes → Prop} {scene : Scene size}

theorem now_safe (covered : scene.Covered quiet) :
    (surroundings size).now.Safe quiet (fun _ scene => scene.Covered quiet) scene := by
  refine fun later changes => ⟨nofun, fun time after given => ?_⟩
  cases given
  exact fun final more => (covered.changes changes).changes more

theorem wallClock_safe (covered : scene.Covered quiet) :
    (surroundings size).wallClock.Safe quiet (fun _ scene => scene.Covered quiet) scene := by
  refine fun later changes => ⟨nofun, fun time after given => ?_⟩
  cases given
  exact fun final more => (covered.changes changes).changes more

theorem takeThrough_safe (deadline : Option WallTime) (patience : Nat)
    (covered : scene.Covered quiet) :
    (Event.takeThrough (takeUntil deadline) patience).Safe quiet (fun _ _ => True) scene := by
  induction patience generalizing scene with
  | zero => exact fun _ _ => trivial
  | succ patience ih =>
    refine fun later changes => ⟨fun _ => covered.changes changes, fun answer after given => ?_⟩
    cases given with
    | taken available => exact fun _ _ => trivial
    | passed => exact fun _ _ => trivial
    | interrupted => exact ih (covered.changes changes)

variable {event : Event Dialogue}

theorem tryTake_prompt (shared : event.semaphore = semaphore) :
    prompting.Free event.semaphore.tryTake := by
  rw [shared]
  exact ⟨nofun, fun _ => trivial⟩

theorem takeNow_prompt (shared : event.semaphore = semaphore) : event.takeNow.Prompt :=
  EffectLaw.takeNow_free (tryTake_prompt shared)

theorem drain_prompt (shared : event.semaphore = semaphore) (patience : Nat) :
    (event.drain patience).Prompt :=
  EffectLaw.drain_free (tryTake_prompt shared) patience

theorem awaitSignal_safe (shared : event.semaphore = semaphore) (timeout : Option Nanoseconds)
    (patience : Nat) (covered : scene.Covered quiet) :
    (event.awaitSignal (surroundings size) timeout patience).Safe quiet
      (fun _ _ => True) scene := by
  unfold Event.awaitSignal
  rw [shared]
  match timeout with
  | none => exact takeThrough_safe none patience covered
  | some 0 =>
    have prompt : Prompt (event.takeNow >>= fun taken => pure (some taken)) :=
      (takeNow_prompt shared).bind fun _ _ => trivial
    exact prompt.safe
  | some (timeout + 1) =>
    refine Safe.bind ((wallClock_safe covered).mono fun now later covered => ?_)
    exact takeThrough_safe _ patience covered

theorem wait_safe (shared : event.semaphore = semaphore) (timeout : Option Nanoseconds)
    (patience : Nat) (covered : scene.Covered quiet) :
    (event.wait (surroundings size) timeout patience).Safe quiet (fun _ _ => True) scene := by
  unfold Event.wait
  have awaited := awaitSignal_safe shared timeout patience covered
  refine Safe.bind (awaited.mono fun answer later _ => ?_)
  match answer with
  | some (.ok true) =>
    refine ((drain_prompt shared patience).bind fun drained _ => ?_).safe
    match drained with
    | none => trivial
    | some (.error error) => trivial
    | some (.ok ()) => trivial
  | some (.ok false) => exact fun _ _ => trivial
  | some (.error error) => exact fun _ _ => trivial
  | none => exact fun _ _ => trivial

variable {connection : Connection Dialogue}

theorem framePending_shared (shared : connection.Shared size) :
    connection.framePending =
      Dialogue.ask (.read 0 (min size Protocol.ring.headerLength)) fun front =>
        .done (connection.sync.pending front) := by
  obtain ⟨inside, addressable⟩ := front_inside size
  rw [framePending_eq, shared.source]
  simp only [Dialogue.source, Source.ofMapping, pure_bind, if_neg (Nat.not_le.mpr addressable),
    if_neg (Nat.not_lt.mpr inside)]
  rfl

-- An answer that nothing is new is what the wait relies on when it blocks.
theorem framePending_safe (shared : connection.Shared size) :
    connection.framePending.Safe quiet
      (fun answer scene => answer = .ok false → scene.Covered connection.Quiet) scene := by
  rw [framePending_shared shared]
  refine fun later changes => ⟨nofun, fun front after given => ?_⟩
  cases given
  intro final more idle
  rw [Synchronizer.pending_front connection.sync later.sized] at idle
  exact Scene.Covered.changes (Or.inl idle) more

theorem pause_safe (shared : connection.Shared size) (pollInterval : Nanoseconds)
    (remaining : Option Nanoseconds) (patience : Nat) (covered : scene.Covered quiet) :
    (connection.pause (surroundings size) pollInterval remaining patience).Safe quiet
      (fun _ _ => True) scene := by
  unfold Connection.pause
  match linked : connection.event with
  | some event => exact wait_safe (shared.event event linked) remaining patience covered
  | none =>
    cases remaining with
    | none => exact fun _ _ => trivial
    | some left => exact fun _ _ => trivial

theorem remaining_safe (deadline : Option Nanoseconds) (covered : scene.Covered quiet) :
    (Connection.remaining (surroundings size) deadline).Safe quiet
      (fun _ scene => scene.Covered quiet) scene := by
  cases deadline with
  | none => exact fun later changes => covered.changes changes
  | some deadline =>
    refine Safe.bind ((now_safe covered).mono fun now later covered => ?_)
    exact fun final more => covered.changes more

-- A round begins where whatever is new has a post to come, and another one follows only if the
-- header, looked at after the posts were taken, shows nothing new.
theorem waitRounds_safe (shared : connection.Shared size) (pollInterval : Nanoseconds)
    (deadline : Option Nanoseconds) (patience : Nat) (covered : scene.Covered connection.Quiet) :
    (connection.waitRounds (surroundings size) pollInterval deadline patience).Safe
      connection.Quiet (fun _ _ => True) scene := by
  induction patience generalizing scene with
  | zero => exact fun _ _ => trivial
  | succ patience ih =>
    unfold Connection.waitRounds
    refine Safe.bind ((remaining_safe deadline covered).mono fun left later covered => ?_)
    cases left with
    | none => exact fun _ _ => trivial
    | some left =>
      have paused := pause_safe shared pollInterval left (patience + 1) covered
      refine Safe.bind (paused.mono fun answer woken _ => ?_)
      cases answer with
      | none => exact fun _ _ => trivial
      | some verdict =>
        cases verdict with
        | error error => exact fun _ _ => trivial
        | ok signalled =>
          cases signalled with
          | false => exact fun _ _ => trivial
          | true =>
            refine Safe.bind ((framePending_safe shared).mono fun pending seen covers => ?_)
            cases pending with
            | error error => exact fun _ _ => trivial
            | ok new =>
              cases new with
              | true => exact fun _ _ => trivial
              | false => exact ih (covers rfl)

theorem connectionWait_safe (shared : connection.Shared size) (timeout : Option Nanoseconds)
    (pollInterval : Nanoseconds) (patience : Nat) :
    (connection.wait (surroundings size) timeout pollInterval patience).Safe connection.Quiet
      (fun _ _ => True) scene := by
  unfold Connection.wait
  refine Safe.bind ((framePending_safe shared).mono fun pending seen covers => ?_)
  match pending, covers with
  | .error error, _ => exact fun _ _ => trivial
  | .ok true, _ => exact fun _ _ => trivial
  | .ok false, covers =>
    have covered := covers rfl
    match timeout with
    | none => exact waitRounds_safe shared pollInterval none patience covered
    | some 0 => exact fun _ _ => trivial
    | some (timeout + 1) =>
      refine Safe.bind ((now_safe covered).mono fun now later covered => ?_)
      exact waitRounds_safe shared pollInterval _ patience covered

end Waits

namespace Receiver

def Quiet (receiver : Receiver Dialogue) (bytes : Bytes) : Prop :=
  ∃ connection ∈ receiver.connection, connection.Quiet bytes

variable {receiver : Receiver Dialogue} {bytes : Bytes}

theorem quiet_of_linked {connection : Connection Dialogue}
    (linked : receiver.connection = some connection) : receiver.Quiet = connection.Quiet := by
  funext bytes
  simp [Quiet, linked]

theorem Quiet.nothing_new (quiet : receiver.Quiet bytes) :
    ∃ header, Header.decode bytes = .ok header ∧
      ∀ index state, header.slot? index = some state → state.ready ≠ 0 →
        state.frameNumber ≤ receiver.lastConsumed := by
  obtain ⟨connection, linked, idle⟩ := quiet
  have linked : receiver.connection = some connection := linked
  obtain ⟨header, agreed, unreset, nothing⟩ := agreed_of_not_pending .allNew idle
  refine ⟨header, (agreedHeader_eq_ok.mp agreed).1, fun index state present ready => ?_⟩
  have declared : header.candidateAt index state ∈ header.readyCandidates :=
    Header.mem_readyCandidates.mpr ⟨index, state, present, ready, rfl⟩
  rw [lastConsumed, linked]
  -- A ready slot above the cursor would be kept.
  by_contra new
  refine (kept_ne_nil_iff .allNew).mpr ⟨_, declared, ?_⟩ nothing
  rw [Synchronizer.baseline_of_unreset unreset]
  exact UInt64.not_le.mp new

variable {scene : Scene size}

theorem waitForFrame_safe (attached : receiver.Attached size) (timeout : Option Nanoseconds)
    (patience : Nat) :
    (waitForFrame (surroundings size) timeout patience receiver).Safe receiver.Quiet
      (fun outcome _ => outcome.2.Attached size) scene := by
  rw [waitForFrame, get_run]
  cases linked : receiver.connection with
  | none => exact fun _ _ => attached
  | some connection =>
    dsimp only
    rw [lift_run, quiet_of_linked linked]
    have shared : connection.Shared size := attached connection linked
    refine Safe.bind ((connectionWait_safe shared timeout _ patience).mono fun answer later _ => ?_)
    cases answer with
    | none => exact fun _ _ => attached
    | some verdict =>
      cases verdict with
      | ok pending => exact fun _ _ => attached
      | error error =>
        have told : prompting.Keeps (Connection.Shared size)
            (report (surroundings size) error >>= fun _ =>
              pure (some (.ok false) : Option (Except Error Bool))) :=
          ((surroundings_serve size).report_keeps error).bind fun _ => .pure _
        exact Unblocked.safe (told receiver attached)

theorem serve_safe (attached : receiver.Attached size) (request : Request) :
    (request.serve (surroundings size) receiver).Safe receiver.Quiet
      (fun outcome _ => outcome.2.Attached size) scene := by
  by_cases waits : ∃ timeout patience, request = .waitForFrame timeout patience
  · obtain ⟨timeout, patience, rfl⟩ := waits
    exact Safe.bind ((waitForFrame_safe attached timeout patience).mono
      fun outcome later still final more => still)
  · have brief : ∀ timeout patience, request ≠ .waitForFrame timeout patience := by
      simpa using waits
    exact (serve_keeps size brief receiver attached).safe

end Receiver

inductive Consumer
  | idle (receiver : Receiver Dialogue)
  -- What is left of a request, and the receiver that it was made to.
  | busy (receiver : Receiver Dialogue) (rest : Dialogue (Reply × Receiver Dialogue))

-- The receiver that waits for a post.
def Consumer.waiting? : Consumer → Option (Receiver Dialogue)
  | .busy receiver (.ask (.take _) _) => some receiver
  | _ => none

structure Encounter (size : Nat) where
  scene : Scene size
  consumer : Consumer

namespace Encounter

inductive Move : Encounter size → Encounter size → Prop
  | produce {scene later : Scene size} {consumer : Consumer} (change : scene.Change later) :
      Move ⟨scene, consumer⟩ ⟨later, consumer⟩
  | begin {scene : Scene size} {receiver : Receiver Dialogue} (request : Request) :
      Move ⟨scene, .idle receiver⟩
        ⟨scene, .busy receiver (request.serve (surroundings size) receiver)⟩
  | interact {scene after : Scene size} {receiver : Receiver Dialogue} {question : Ask}
      {answer : question.Answer} {next : question.Answer → Dialogue (Reply × Receiver Dialogue)}
      (given : scene.Answers question answer after) :
      Move ⟨scene, .busy receiver (.ask question next)⟩ ⟨after, .busy receiver (next answer)⟩
  | finish {scene : Scene size} {receiver after : Receiver Dialogue} {reply : Reply} :
      Move ⟨scene, .busy receiver (.done (reply, after))⟩ ⟨scene, .idle after⟩

abbrev Reaches : Encounter size → Encounter size → Prop := Relation.ReflTransGen Move

def Sound (encounter : Encounter size) : Prop :=
  match encounter.consumer with
  | .idle receiver => receiver.Attached size
  | .busy receiver rest =>
    rest.Safe receiver.Quiet (fun outcome _ => outcome.2.Attached size) encounter.scene

variable {encounter later : Encounter size}

theorem Move.sound (move : encounter.Move later) (sound : encounter.Sound) : later.Sound := by
  cases move with
  | @produce scene later consumer change =>
    cases consumer with
    | idle receiver => exact sound
    | busy receiver rest => exact Safe.changes sound (.single change)
  | begin request => exact Receiver.serve_safe sound request
  | interact given => exact (sound _ .refl).2 _ _ given
  | finish => exact sound _ .refl

theorem Sound.reaches (sound : encounter.Sound) (reached : encounter.Reaches later) :
    later.Sound := by
  induction reached with
  | refl => exact sound
  | tail _ move ih => exact move.sound ih

theorem Sound.covered {waiter : Receiver Dialogue} (sound : encounter.Sound)
    (blocked : encounter.consumer.waiting? = some waiter) :
    encounter.scene.Covered waiter.Quiet := by
  obtain ⟨scene, consumer⟩ := encounter
  cases consumer with
  | idle receiver => cases blocked
  | busy receiver rest =>
    cases rest with
    | done outcome => cases blocked
    | ask question next =>
      cases question with
      | take deadline =>
        obtain rfl := Option.some.inj blocked
        exact (sound scene .refl).1 trivial
      | _ => cases blocked

end Encounter

/-- A receiver that blocks when every publication was posted and every post was taken has seen all
that the header flags as ready. -/
theorem no_lost_wakeup {receiver waiter : Receiver Dialogue} {scene : Scene size}
    {encounter : Encounter size} (attached : receiver.Attached size)
    (reached : Encounter.Reaches ⟨scene, .idle receiver⟩ encounter)
    (blocked : encounter.consumer.waiting? = some waiter)
    (spent : encounter.scene.count = 0) (posted : encounter.scene.unposted = 0) :
    ∃ header, Header.decode encounter.scene.region = .ok header ∧
      ∀ index state, header.slot? index = some state → state.ready ≠ 0 →
        state.frameNumber ≤ waiter.lastConsumed := by
  have start : Encounter.Sound ⟨scene, .idle receiver⟩ := attached
  have sound : encounter.Sound := start.reaches reached
  rcases sound.covered blocked with quiet | due
  · exact quiet.nothing_new
  · omega

section Played

def Scene.answer? (scene : Scene size) : (question : Ask) → Option (question.Answer × Scene size)
  | .read offset length => some (scene.region.slice offset length, scene)
  | .take _ =>
    match scene.count with
    | 0 => none
    | count + 1 => some (.taken, { scene with count })
  | .tryTake =>
    match scene.count with
    | 0 => some (.empty, scene)
    | count + 1 => some (.taken, { scene with count })
  | .now => some (0, scene)
  | .wallClock => some (⟨0, 0⟩, scene)

theorem Scene.answers_of_answer? {scene after : Scene size} {question : Ask}
    {answer : question.Answer} (given : scene.answer? question = some (answer, after)) :
    scene.Answers question answer after := by
  cases question with
  | read offset length =>
    cases given
    exact .read
  | take deadline =>
    cases left : scene.count with
    | zero =>
      simp only [answer?, left] at given
      cases given
    | succ count =>
      simp only [answer?, left] at given
      cases given
      exact .taken left
  | tryTake =>
    cases left : scene.count with
    | zero =>
      simp only [answer?, left] at given
      cases given
      exact .nothing left
    | succ count =>
      simp only [answer?, left] at given
      cases given
      exact .tryTaken left
  | now =>
    cases given
    exact .now
  | wallClock =>
    cases given
    exact .wallClock

inductive Turn
  | publish (region : Bytes)
  | post
  | request (request : Request)
  | proceed

-- A turn that is nobody's changes nothing.
def Encounter.play (encounter : Encounter size) : Turn → Encounter size
  | .publish region =>
    if sized : region.length = size then
      { encounter with
        scene := { encounter.scene with region, sized, unposted := encounter.scene.unposted + 1 } }
    else
      encounter
  | .post =>
    match encounter.scene.unposted with
    | 0 => encounter
    | unposted + 1 =>
      let count := encounter.scene.count + 1
      { encounter with scene := { encounter.scene with count, unposted } }
  | .request request =>
    match encounter.consumer with
    | .idle receiver =>
      { encounter with
        consumer := .busy receiver (request.serve (surroundings size) receiver) }
    | _ => encounter
  | .proceed =>
    match encounter.consumer with
    | .idle _ => encounter
    | .busy _ (.done (_, after)) => { encounter with consumer := .idle after }
    | .busy receiver (.ask question next) =>
      match encounter.scene.answer? question with
      | none => encounter
      | some (answer, after) => ⟨after, .busy receiver (next answer)⟩

theorem Encounter.reaches_play (encounter : Encounter size) (turn : Turn) :
    encounter.Reaches (encounter.play turn) := by
  obtain ⟨scene, consumer⟩ := encounter
  cases turn with
  | publish region =>
    by_cases sized : region.length = size
    · simp only [play, dif_pos sized]
      exact .single (.produce (.publish sized))
    · simp only [play, dif_neg sized]
      exact .refl
  | post =>
    cases due : scene.unposted with
    | zero =>
      simp only [play, due]
      exact .refl
    | succ unposted =>
      simp only [play, due]
      exact .single (.produce (.post due))
  | request request =>
    cases consumer with
    | idle receiver => exact .single (.begin request)
    | busy receiver rest => exact .refl
  | proceed =>
    cases consumer with
    | idle receiver => exact .refl
    | busy receiver rest =>
      cases rest with
      | done outcome => exact .single .finish
      | ask question next =>
        cases given : scene.answer? question with
        | none =>
          simp only [play, given]
          exact .refl
        | some outcome =>
          simp only [play, given]
          exact .single (.interact (Scene.answers_of_answer? given))

theorem Encounter.reaches_plays (encounter : Encounter size) (turns : List Turn) :
    encounter.Reaches (turns.foldl Encounter.play encounter) := by
  induction turns generalizing encounter with
  | nil => exact .refl
  | cons turn rest ih => exact (encounter.reaches_play turn).trans (ih _)

def flagged (frameNumber : UInt64) : Bytes :=
  SingleHeader.encode
    { magic := Header.magicNumber, version := 1, picture := ⟨1, 1, 1, 0⟩, timestampMs := 0
      frameNumber, dataSize := 1, ready := 1 } ++ [7]

def newcomer : Encounter 49 where
  scene := { region := flagged 0, sized := rfl, count := 0, unposted := 0 }
  consumer := .idle (Receiver.new {} 0)

-- The third frame is published between the take that wakes the receiver and the takes that drain.
def threePosts : List Turn :=
  [.request .connect, .proceed, .proceed, .proceed,
   .request (.waitForFrame none 5), .proceed,
   .publish (flagged 1), .post, .publish (flagged 2), .post,
   .proceed, .publish (flagged 3), .post, .proceed, .proceed, .proceed, .proceed, .proceed,
   .request (.extract .latest), .proceed, .proceed, .proceed, .proceed, .proceed,
   .request (.waitForFrame none 5), .proceed]

theorem no_lost_wakeup_threePosts :
    ∃ waiter, (Receiver.new {} 0 : Receiver Dialogue).Attached 49 ∧
      newcomer.Reaches (threePosts.foldl Encounter.play newcomer) ∧
      (threePosts.foldl Encounter.play newcomer).consumer.waiting? = some waiter ∧
      (threePosts.foldl Encounter.play newcomer).scene.count = 0 ∧
      (threePosts.foldl Encounter.play newcomer).scene.unposted = 0 ∧
      waiter.lastConsumed = 3 ∧
      ∃ header, Header.decode (threePosts.foldl Encounter.play newcomer).scene.region = .ok header ∧
        ∀ index state, header.slot? index = some state → state.ready ≠ 0 →
          state.frameNumber ≤ waiter.lastConsumed := by
  have attached : (Receiver.new {} 0 : Receiver Dialogue).Attached 49 := nofun
  have reached := newcomer.reaches_plays threePosts
  have consumed : (threePosts.foldl Encounter.play newcomer).consumer.waiting?.map
      (·.lastConsumed) = some 3 := by decide +kernel
  have spent : (threePosts.foldl Encounter.play newcomer).scene.count = 0 := by decide +kernel
  have posted : (threePosts.foldl Encounter.play newcomer).scene.unposted = 0 := by
    decide +kernel
  obtain ⟨waiter, blocked, third⟩ := Option.map_eq_some_iff.mp consumed
  exact ⟨waiter, attached, reached, blocked, spent, posted, third,
    no_lost_wakeup attached reached blocked spent posted⟩

end Played

end FrameTap
