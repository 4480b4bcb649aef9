import FrameTap.Program
import FrameTap.Proofs.Demo.Rounds
import FrameTap.Proofs.Receiver.Effects
import FrameTap.Proofs.Receiver.Patience
import FrameTap.Proofs.Synchronizer.Resets

set_option autoImplicit false

namespace FrameTap

namespace Demo

namespace Loop

variable {σ : Type}

-- What each of the acts comes to, one after the other.
def gather {β : Type} (view : Act → List β) (acts : List Act) : List β := acts.flatMap view

abbrev readings : List Act → List Bool := gather Act.read

abbrev taken : List Act → List Frame := gather Act.returned

abbrev attempts : List Act → List (Frame × Except Error String) := gather Act.attempted

abbrev announced : List Act → List ReceiverEvent := gather Act.events

inductive Sight
  | file (path : String)
  | complaint (error : Error)
  deriving DecidableEq

def complained (notice : Notice) : List Sight := notice.complaint?.toList.map .complaint

-- No file is made for a frame that is no picture.
def made (loop : Loop σ) (frame : Frame) : List Sight :=
  match Bitmap.ofFrame frame with
  | .ok _ => [.file (loop.saver.path frame)]
  | .error _ => []

def Act.sights (loop : Loop σ) : Act → List Sight
  | .saved frame _ => loop.made frame
  | .noted notice => complained notice
  | _ => []

abbrev sights (loop : Loop σ) : List Act → List Sight := gather (Act.sights loop)

section Contract

variable (loop : Loop σ)

-- What an attempt to save comes to, as far as it can be seen.
def remains : Frame × Except Error String → List Sight
  | (frame, .ok _) => loop.made frame
  | (frame, .error error) => loop.made frame ++ [.complaint error]

structure Contract (acts : List Act) (outcome : Option (Except Error Unit)) : Prop where
  faultless : ∀ error, outcome ≠ some (.error error)
  stopped : outcome = some (.ok ()) →
    ∃ front, acts = front ++ [.asked true, .left [.disconnected]] ∧ true ∉ readings front
  unfinished : outcome = none → true ∉ readings acts ∧
    (.waited none [] ∈ acts ∨ readings acts = List.replicate loop.patience false)
  farewell : (announced acts).count .disconnected = if outcome.isSome then 1 else 0
  saved : (attempts acts).map Prod.fst = (taken acts).filter fun frame =>
    loop.settings.screenshotEvery ≠ 0 ∧
      loop.settings.screenshotEvery.toNat ∣ frame.frameNumber.toNat
  sighted : loop.sights acts = (attempts acts).flatMap loop.remains

-- What the loop does while the flag is not raised.
structure Tidy (acts : List Act) : Prop where
  lowered : true ∉ readings acts
  linked : .disconnected ∉ announced acts
  saved : (attempts acts).map Prod.fst = (taken acts).filter loop.saver.isDue
  sighted : loop.sights acts = (attempts acts).flatMap loop.remains

end Contract

section Tidying

variable {loop : Loop σ} {front back : List Act} {saves : List (Frame × Except Error String)}

section Gather

variable {β : Type} {view : Act → List β}

@[simp] theorem gather_nil : gather view [] = [] := rfl

@[simp] theorem gather_cons (act : Act) :
    gather view (act :: back) = view act ++ gather view back :=
  rfl

@[simp] theorem gather_append :
    gather view (front ++ back) = gather view front ++ gather view back :=
  List.flatMap_append

theorem gather_saving (saved : ∀ frame answer, view (.saved frame answer) = [])
    (noted : ∀ notice, view (.noted notice) = []) : gather view (saving saves) = [] := by
  induction saves using saving.induct with
  | case1 => rfl
  | case2 frame path rest ih => simp [saving, saved, ih]
  | case3 frame error rest ih => simp [saving, saved, noted, ih]

end Gather

theorem tidy_nil : loop.Tidy [] := ⟨nofun, nofun, rfl, rfl⟩

theorem Tidy.append (first : loop.Tidy front) (second : loop.Tidy back) :
    loop.Tidy (front ++ back) where
  lowered := by simp [first.lowered, second.lowered]
  linked := by simp [first.linked, second.linked]
  saved := by simp [first.saved, second.saved]
  sighted := by simp [first.sighted, second.sighted]

@[simp] theorem readings_saving : readings (saving saves) = [] :=
  gather_saving (fun _ _ => rfl) fun _ => rfl

@[simp] theorem taken_saving : taken (saving saves) = [] :=
  gather_saving (fun _ _ => rfl) fun _ => rfl

@[simp] theorem announced_saving : announced (saving saves) = [] :=
  gather_saving (fun _ _ => rfl) fun _ => rfl

@[simp] theorem attempts_saving : attempts (saving saves) = saves := by
  induction saves using saving.induct with
  | case1 => rfl
  | case2 frame path rest ih => exact congrArg _ ih
  | case3 frame error rest ih => exact congrArg _ ih

@[simp] theorem sights_saving : loop.sights (saving saves) = saves.flatMap loop.remains := by
  induction saves using saving.induct with
  | case1 => rfl
  | case2 frame path rest ih => exact congrArg _ ih
  | case3 frame error rest ih =>
    have told : complained (.saveFailed error) = [.complaint error] := rfl
    simp [saving, Act.sights, remains, told, ih]

theorem opening_tidy : loop.Tidy loop.opening := by
  unfold opening
  split <;> exact ⟨nofun, nofun, rfl, rfl⟩

theorem opening_readings : readings loop.opening = [] := by
  unfold opening
  split <;> rfl

theorem Told.linked {frames : List Frame} {events : List ReceiverEvent}
    (told : Told frames events) : .disconnected ∉ events := by
  cases told with
  | failed error => nofun
  | delivered reset =>
    intro member
    cases delivered_of_session reset frames _ member

variable {acts : List Act}

theorem Round.readings (round : loop.Round acts) : readings acts = [false] := by
  cases round with
  | failed error => rfl
  | idle => rfl
  | busy told answered => simp [Act.read]

theorem Round.tidy (round : loop.Round acts) : loop.Tidy acts := by
  have lowered : true ∉ Loop.readings acts := by simp [round.readings]
  cases round with
  | failed error => exact ⟨lowered, nofun, rfl, rfl⟩
  | idle => exact ⟨lowered, nofun, rfl, rfl⟩
  | busy told answered =>
    exact {
      lowered
      linked := by simpa [Act.events] using told.linked
      saved := by simpa [Act.attempted, Act.returned] using answered
      sighted := by simp [Act.sights, Act.attempted] }

theorem rounds_tidy {rounds : List (List Act)} (sound : ∀ round ∈ rounds, loop.Round round) :
    loop.Tidy rounds.flatten := by
  induction rounds with
  | nil => exact tidy_nil
  | cons first rest ih =>
    obtain ⟨round, others⟩ := List.forall_mem_cons.mp sound
    exact round.tidy.append (ih others)

theorem rounds_readings {rounds : List (List Act)} (sound : ∀ round ∈ rounds, loop.Round round) :
    readings rounds.flatten = List.replicate rounds.length false := by
  induction rounds with
  | nil => rfl
  | cons first rest ih =>
    obtain ⟨round, others⟩ := List.forall_mem_cons.mp sound
    simp [round.readings, ih others, List.replicate_succ]

theorem isDue_eq (loop : Loop σ) :
    loop.saver.isDue = fun frame => decide (loop.settings.screenshotEvery ≠ 0 ∧
      loop.settings.screenshotEvery.toNat ∣ frame.frameNumber.toNat) := by
  funext frame
  simp [Saver.isDue, saver, Nat.dvd_iff_mod_eq_zero, ← UInt64.toNat_inj]

theorem Ending.contract {rounds : List (List Act)} {ending : List Act}
    {outcome : Option (Except Error Unit)} (sound : ∀ round ∈ rounds, loop.Round round)
    (ends : Ending loop.patience rounds.length ending outcome) :
    loop.Contract (loop.opening ++ rounds.flatten ++ ending ++ closing outcome) outcome := by
  have tidy : loop.Tidy (loop.opening ++ rounds.flatten) := opening_tidy.append (rounds_tidy sound)
  have read : readings (loop.opening ++ rounds.flatten) = List.replicate rounds.length false := by
    simp [opening_readings, rounds_readings sound]
  generalize loop.opening ++ rounds.flatten = front at tidy read
  have unsaid : (announced front).count .disconnected = 0 := List.count_eq_zero.mpr tidy.linked
  have saved := tidy.saved
  rw [isDue_eq] at saved
  -- No ending takes frames or tries to save any.
  cases ends with
  | stopped within =>
    exact {
      faultless := by simp
      stopped := fun _ => ⟨front, by simp [closing], tidy.lowered⟩
      unfinished := by simp
      farewell := by simp [closing, Act.events, unsaid]
      saved := by simpa [closing, Act.attempted, Act.returned] using saved
      sighted := by simpa [closing, Act.attempted, Act.sights] using tidy.sighted }
  | stuck within =>
    exact {
      faultless := by simp
      stopped := by simp
      unfinished := fun _ => ⟨by simp [closing, read, Act.read], .inl (by simp)⟩
      farewell := by simp [closing, Act.events, unsaid]
      saved := by simpa [closing, Act.attempted, Act.returned] using saved
      sighted := by simpa [closing, Act.attempted, Act.sights] using tidy.sighted }
  | outrun all =>
    exact {
      faultless := by simp
      stopped := by simp
      unfinished := fun _ => ⟨by simp [closing, read], .inr (by simp [closing, read, all])⟩
      farewell := by simpa [closing] using unsaid
      saved := by simpa [closing] using saved
      sighted := by simpa [closing] using tidy.sighted }

end Tidying

structure Shows (loop : Loop σ) (view : σ → List Sight) : Prop where
  create : ∀ path world,
    view (loop.station.images.create path world).2 = view world ++ [.file path]
  write : ∀ path bitmap, (EffectLaw.sparing view).Free (loop.station.images.write path bitmap)
  log : ∀ notice world, view (loop.station.log notice world).2 = view world ++ complained notice
  serves : (EffectLaw.sparing view).Serves loop.station.toSurroundings
  stopRequested : (EffectLaw.sparing view).Free loop.station.stopRequested
  between : ∀ receiver, (EffectLaw.sparing view).Free (loop.between receiver)

-- Connected, if at all, to what does not show in the view.
abbrev Apart (view : σ → List Sight) (receiver : Receiver (StateM σ)) : Prop :=
  EffectLaw.Linked (EffectLaw.sparing view).Joins receiver

section Seen

variable {loop : Loop σ} {view : σ → List Sight} (shows : loop.Shows view)
  {start last : Receiver (StateM σ) × σ}

include shows

theorem store_seen (path : String) (bitmap : Bitmap) (world : σ) :
    view (Saver.store loop.station.images path bitmap world).2 = view world ++ [.file path] := by
  have created := shows.create path world
  unfold Saver.store
  rcases made : loop.station.images.create path world with ⟨answer, reached⟩
  rw [made] at created
  rw [StateM.bind_of_eq made]
  cases answer with
  | error fault => exact created
  | ok done =>
    cases bitmap.checkSides with
    | error fault => exact created
    | ok sound =>
      have spared := (shows.write path bitmap reached).1
      rcases written : loop.station.images.write path bitmap reached with ⟨answer, stored⟩
      rw [written] at spared
      dsimp only
      rw [StateM.bind_of_eq written]
      cases answer <;> exact spared.trans created

theorem save_seen (frame : Frame) (world : σ) :
    view (loop.save frame world).2 = view world ++ loop.made frame := by
  unfold save Saver.save made
  cases Bitmap.ofFrame frame with
  | error error => exact (List.append_nil _).symm
  | ok bitmap =>
    have seen := store_seen shows (loop.saver.path frame) bitmap world
    rcases stored : Saver.store loop.station.images (loop.saver.path frame) bitmap world with
      ⟨answer, reached⟩
    rw [stored] at seen
    dsimp only
    rw [StateM.bind_of_eq stored]
    cases answer with
    | error fault => exact seen
    | ok done => exact (shows.serves.log (.saved _) rfl reached).1.trans seen

theorem await_spares : (EffectLaw.sparing view).Keeps (EffectLaw.sparing view).Joins loop.await :=
  shows.serves.waitForFrame_keeps (fun _ joins => joins) _ _

theorem take_spares : (EffectLaw.sparing view).Keeps (EffectLaw.sparing view).Joins loop.take :=
  shows.serves.extract_keeps (fun _ joins => joins.reads)
    (fun _ _ joins => ⟨joins.reads, joins.takes⟩) _

theorem leave_spares : (EffectLaw.sparing view).Keeps (EffectLaw.sparing view).Joins loop.leave :=
  shows.serves.disconnect_keeps

theorem between_spares (unmeddled : loop.Unmeddled) :
    (EffectLaw.sparing view).Keeps (EffectLaw.sparing view).Joins loop.between := by
  intro receiver apart world
  obtain ⟨subscribers, reached, ran⟩ := unmeddled receiver world
  have spared := (shows.between receiver world).1
  rw [ran] at spared ⊢
  exact ⟨spared, apart⟩

omit shows in
theorem unseen {α : Type} {action : ReceiverM (StateM σ) α} {value : α}
    (spares : (EffectLaw.sparing view).Keeps (EffectLaw.sparing view).Joins action)
    (ran : action start.1 start.2 = ((value, last.1), last.2)) (apart : Apart view start.1) :
    view last.2 = view start.2 ++ [] ∧ Apart view last.1 := by
  have spared := spares start.1 apart start.2
  rw [ran] at spared
  rwa [List.append_nil]

theorem Act.seen (unmeddled : loop.Unmeddled) {act : Act} (leads : act.Leads loop start last)
    (apart : Apart view start.1) :
    view last.2 = view start.2 ++ act.sights loop ∧ Apart view last.1 := by
  cases act with
  | asked raised =>
    obtain ⟨ran, same⟩ := leads
    have spared := (shows.stopRequested start.2).1
    rw [ran] at spared
    rw [same]
    exact ⟨spared.trans (List.append_nil _).symm, apart⟩
  | waited answer events => exact unseen (await_spares shows) leads.1 apart
  | took answer events => exact unseen (take_spares shows) leads.1 apart
  | saved frame answer =>
    obtain ⟨ran, same⟩ := leads
    have seen := save_seen shows frame start.2
    rw [ran] at seen
    rw [same]
    exact ⟨seen, apart⟩
  | noted notice =>
    obtain ⟨ran, same⟩ := leads
    have seen := shows.log notice start.2
    rw [ran] at seen
    rw [same]
    exact ⟨seen, apart⟩
  | paused => exact unseen (between_spares shows unmeddled) leads apart
  | left events => exact unseen (leave_spares shows) leads.1 apart

theorem Course.seen (unmeddled : loop.Unmeddled) {acts : List Act}
    (course : Course loop acts start last) (apart : Apart view start.1) :
    view last.2 = view start.2 ++ loop.sights acts := by
  induction acts generalizing start with
  | nil =>
    cases course
    exact (List.append_nil _).symm
  | cons act rest ih =>
    obtain ⟨middle, leads, later⟩ := course
    obtain ⟨first, still⟩ := Act.seen shows unmeddled leads apart
    simp [ih later still, first]

end Seen

section Patience

variable (loop : Loop σ) {less more : Nat}

theorem receiveRound_outlasts (order : less ≤ more) :
    Receiver.Outlasts (receiveRound loop.station loop.settings loop.saver more)
      (receiveRound loop.station loop.settings loop.saver less) := by
  have longer : Receiver.patienceFor loop.settings.waitTimeout + less ≤
      Receiver.patienceFor loop.settings.waitTimeout + more := Nat.add_le_add_left order _
  refine (Receiver.waitForFrame_outlasts longer _ _).bind (fun _ _ => rfl) fun answer => ?_
  match answer with
  | .error _ | .ok false | .ok true => exact .refl _

theorem repeatUntilStopped_outlasts (order : less ≤ more)
    {further round : ReceiverM (StateM σ) (Option (Except Error Unit))}
    (outlasts : Receiver.Outlasts further round) :
    Receiver.Outlasts (repeatUntilStopped loop.station further more)
      (repeatUntilStopped loop.station round less) := by
  induction less generalizing more with
  | zero => exact .silent _
  | succ less ih =>
    obtain ⟨more, rfl⟩ := Nat.exists_eq_add_of_le' (Nat.zero_lt_of_lt order)
    refine .after _ fun raised => ?_
    cases raised with
    | true => exact .refl _
    | false =>
      refine outlasts.bind (fun _ _ => rfl) fun answer => ?_
      match answer with
      | .error _ => exact .refl _
      | .ok () => exact ih (Nat.le_of_succ_le_succ order)

variable (order : loop.patience ≤ more)

include order

theorem untilStopped_outlasts :
    Receiver.Outlasts { loop with patience := more }.untilStopped loop.untilStopped := by
  have rounds : Receiver.Outlasts { loop with patience := more }.round loop.round :=
    (receiveRound_outlasts loop order).bind (fun _ _ => rfl) fun _ => .refl _
  exact (repeatUntilStopped_outlasts loop order rounds).bind (fun _ _ => rfl) fun _ => .refl _

theorem run_outlasts : Receiver.Outlasts { loop with patience := more }.run loop.run := by
  have looping := untilStopped_outlasts loop order
  unfold run receiveLoop
  by_cases never : loop.settings.screenshotEvery = 0
  · rw [if_neg (not_not.mpr never), if_neg (not_not.mpr never)]
    exact .after _ fun _ => looping
  · rw [if_pos never, if_pos never]
    exact .after _ fun _ => .after _ fun _ => looping

end Patience

section Watched

variable (station : Station (StateM σ)) (settings : DemoSettings) (patience : Nat)

-- The loop as the program runs it.
def watched : Loop σ where
  station := station
  settings := settings
  between := Program.watch station
  patience := patience

theorem watched_unmeddled : (watched station settings patience).Unmeddled :=
  fun receiver world => ⟨receiver.emptyInboxes.subscribers,
    (Program.speak station ((receiver.inbox? 0).getD []) world).2, rfl⟩

variable {station} {view : σ → List Sight}

theorem speak_spares (serves : (EffectLaw.sparing view).Serves station.toSurroundings)
    (events : List ReceiverEvent) :
    (EffectLaw.sparing view).Free (Program.speak station events) := by
  induction events with
  | nil => exact EffectLaw.pure _ trivial
  | cons event rest ih =>
    match event with
    | .error message => exact EffectLaw.bind _ (serves.log _ rfl) fun _ _ => ih
    | .sessionReset reset => exact EffectLaw.bind _ (serves.log _ rfl) fun _ _ => ih
    | .disconnected => exact serves.log _ rfl
    | .connected .. | .frameReceived .. => exact ih

theorem watch_spares (serves : (EffectLaw.sparing view).Serves station.toSurroundings)
    (receiver : Receiver (StateM σ)) :
    (EffectLaw.sparing view).Free (Program.watch station receiver) :=
  fun world => ⟨(speak_spares serves ((receiver.inbox? 0).getD []) world).1, trivial⟩

end Watched

/-- The loop is left only where the flag is read and is raised, and the receiver is then
disconnected. Nothing that goes wrong ends it. -/
theorem receiveLoop_keeps_contract (loop : Loop σ) (unmeddled : loop.Unmeddled)
    (receiver : Receiver (StateM σ)) (linked : receiver.isConnected = true) (world : σ) :
    ∃ (rounds : List (List Act)) (ending : List Act) (outcome : Option (Except Error Unit))
      (after : Receiver (StateM σ)) (reached : σ),
      let acts := loop.opening ++ rounds.flatten ++ ending ++ closing outcome
      receiveLoop loop.station loop.settings loop.between loop.patience receiver world =
        ((outcome, after), reached) ∧
      Course loop acts (receiver, world) (after, reached) ∧
      (∀ round ∈ rounds, loop.Round round) ∧ Ending loop.patience rounds.length ending outcome ∧
      loop.Contract acts outcome ∧ after.isConnected = outcome.isNone ∧
      (∀ view, loop.Shows view → Apart view receiver →
        view reached = view world ++ (attempts acts).flatMap loop.remains) ∧
      (outcome.isSome → ∀ more, loop.patience ≤ more →
        receiveLoop loop.station loop.settings loop.between more receiver world =
          ((outcome, after), reached)) := by
  obtain ⟨rounds, ending, outcome, after, reached, ran, course, sound, ends, still⟩ :=
    run_course unmeddled linked world
  have contract := ends.contract sound
  refine ⟨rounds, ending, outcome, after, reached, ran, course, sound, ends, contract, still,
    ?seen, ?outlasts⟩
  case seen =>
    intro view shows apart
    rw [← contract.sighted]
    exact Course.seen shows unmeddled course apart
  case outlasts =>
    intro finished more order
    have same := run_outlasts loop order receiver world
    rw [ran] at same
    exact same finished

-- What happens while frames are received, as far as it matters.
structure Diary where
  readings : Nat
  sights : List Sight
  deriving DecidableEq

def Diary.write (diary : Diary) (sights : List Sight) : Diary :=
  { diary with sights := diary.sights ++ sights }

-- The flag is raised when it is read for the third time. One image file cannot be made.
def diaryStation : Station (StateM Diary) where
  openRegion _ := pure (.error .notFound)
  openSemaphore _ := pure (.error .notFound)
  now := pure 0
  wallClock := pure { seconds := 0, nanoseconds := 0 }
  sleep _ := pure ()
  log notice := modify (·.write (complained notice))
  images := {
    create := fun path diary =>
      (if path = "./frame_2.png" then .error .permissionDenied else .ok (),
        diary.write [.file path])
    write := fun _ _ => pure (.ok ()) }
  stopRequested := fun diary => (decide (2 ≤ diary.readings),
    { diary with readings := diary.readings + 1 })

-- Nine frames were written when the flag is read again.
def diaryRing : Source (StateM Diary) where
  length := pure 132
  copyOut offset length := fun diary =>
    let bytes := ringAt (if diary.readings = 1 then 4 else 9)
    (Source.ofBytes bytes : Source (StateM Diary)).copyOut offset length diary

def diaryReceiver : Receiver (StateM Diary) where
  settings := {}
  connection := some
    { region := { name := "ring", source := diaryRing }, event := none
      sync := Synchronizer.start .ring }
  statistics := Statistics.start 0
  current := none
  subscribers := [{ id := 0, listening := true, inbox := [] }]
  subscriptions := 1

def diaryLoop : Loop Diary := watched diaryStation { mode := .allNew, screenshotEvery := 2 } 5

theorem diaryStation_serves :
    (EffectLaw.sparing Diary.sights).Serves diaryStation.toSurroundings where
  now _ := ⟨rfl, trivial⟩
  wallClock _ := ⟨rfl, trivial⟩
  sleep _ _ := ⟨rfl, trivial⟩
  log notice quiet diary := by
    have unseen : complained notice = [] := by simp [complained, quiet]
    have kept : diary.sights ++ complained notice = diary.sights := by simp [unseen]
    exact ⟨kept, trivial⟩

theorem diaryLoop_shows : diaryLoop.Shows Diary.sights where
  create _ _ := rfl
  write _ _ _ := ⟨rfl, trivial⟩
  log _ _ := rfl
  serves := diaryStation_serves
  stopRequested _ := ⟨rfl, trivial⟩
  between := watch_spares diaryStation_serves

theorem diaryReceiver_apart : Apart Diary.sights diaryReceiver := by
  rintro connection ⟨⟩
  exact {
    reads := ⟨fun _ => ⟨rfl, trivial⟩, fun _ _ _ => ⟨rfl, trivial⟩⟩
    takes := nofun }

-- The complaint about the second frame is all that comes of it, and the ninth is not due.
theorem receiveLoop_keeps_contract_diaryLoop :
    diaryLoop.Unmeddled ∧ diaryReceiver.isConnected = true ∧ ∃ acts after reached,
      receiveLoop diaryLoop.station diaryLoop.settings diaryLoop.between 5 diaryReceiver ⟨0, []⟩ =
        ((some (.ok ()), after), reached) ∧
      Course diaryLoop acts (diaryReceiver, ⟨0, []⟩) (after, reached) ∧
      diaryLoop.Contract acts (some (.ok ())) ∧ after.isConnected = false ∧
      reached.sights = (attempts acts).flatMap diaryLoop.remains ∧
      reached.sights = [.file "./frame_2.png",
        .complaint (.image (.storage .permissionDenied)), .file "./frame_4.png"] := by
  have unmeddled : diaryLoop.Unmeddled := watched_unmeddled diaryStation _ 5
  have finished : (receiveLoop diaryLoop.station diaryLoop.settings diaryLoop.between 5
      diaryReceiver ⟨0, []⟩).1.1 = some (.ok ()) := by decide +kernel
  have shown : (receiveLoop diaryLoop.station diaryLoop.settings diaryLoop.between 5
      diaryReceiver ⟨0, []⟩).2.sights = [.file "./frame_2.png",
        .complaint (.image (.storage .permissionDenied)), .file "./frame_4.png"] := by
    decide +kernel
  obtain ⟨rounds, ending, outcome, after, reached, ran, course, -, -, contract, left, seen, -⟩ :=
    receiveLoop_keeps_contract diaryLoop unmeddled diaryReceiver rfl ⟨0, []⟩
  have same : diaryLoop.patience = 5 := rfl
  rw [same] at ran
  rw [ran] at finished shown
  obtain rfl : outcome = some (.ok ()) := finished
  exact ⟨unmeddled, rfl, _, after, reached, ran, course, contract, left,
    seen Diary.sights diaryLoop_shows diaryReceiver_apart, shown⟩

end Loop

end Demo

end FrameTap
