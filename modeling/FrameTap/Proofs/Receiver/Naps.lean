import FrameTap.Proofs.Receiver.Outcomes
import FrameTap.Proofs.Synchronizer.Pending
import Mathlib.Algebra.Order.Floor.Div

set_option autoImplicit false

namespace FrameTap

inductive Moment
  | look (seen : Except Error Bytes)
  | clock (time : Nanoseconds)
  | nap (length : Nanoseconds)

namespace Moment

-- Where a clock stands at least that stood there before.
def advance (clock : Nanoseconds) : Moment → Nanoseconds
  | .look _ => clock
  | .clock time => time
  | .nap length => clock + length

def reading? : Moment → Option Nanoseconds
  | .clock time => some time
  | _ => none

def nap? : Moment → Option Nanoseconds
  | .nap length => some length
  | _ => none

end Moment

def earliest (moments : List Moment) : Nanoseconds := moments.foldl Moment.advance 0

def readings (moments : List Moment) : List Nanoseconds := moments.filterMap (·.reading?)

def naps (moments : List Moment) : List Nanoseconds := moments.filterMap (·.nap?)

section Naps

variable (rest : List Moment)

@[simp] theorem naps_nil : naps [] = [] := rfl

@[simp] theorem naps_look (seen : Except Error Bytes) : naps (.look seen :: rest) = naps rest := rfl

@[simp] theorem naps_clock (time : Nanoseconds) : naps (.clock time :: rest) = naps rest := rfl

@[simp] theorem naps_nap (length : Nanoseconds) :
    naps (.nap length :: rest) = length :: naps rest := rfl

@[simp] theorem naps_append (front : List Moment) :
    naps (front ++ rest) = naps front ++ naps rest :=
  List.filterMap_append

end Naps

/-- What the machine has in store: what the region shows and what the clock reads, after anything
that was done before. The clock never goes back, and no nap is shorter than it was meant to be. -/
structure Outlook where
  length : List Moment → Nat
  shown : List Moment → Except Error Bytes
  reading : List Moment → Nanoseconds
  earliest_le : ∀ past, earliest past ≤ reading past

namespace Outlook

variable (outlook : Outlook)

-- The world is what was done so far.
def source : Source (StateM (List Moment)) where
  length := fun past => (outlook.length past, past)
  copyOut _ _ := fun past => (outlook.shown past, past ++ [.look (outlook.shown past)])

def surroundings : Surroundings (StateM (List Moment)) where
  openRegion _ := pure (.error .notFound)
  openSemaphore _ := pure (.error .notFound)
  now := fun past => (outlook.reading past, past ++ [.clock (outlook.reading past)])
  wallClock := fun past => (WallTime.ofNanoseconds (outlook.reading past), past)
  sleep length := fun past => ((), past ++ [.nap length])
  log _ := pure ()

def connection (name : String) (sync : Synchronizer) : Connection (StateM (List Moment)) where
  region := { name, source := outlook.source }
  event := none
  sync := sync

end Outlook

def Synchronizer.verdict (sync : Synchronizer) (seen : Except Error Bytes) : Except Error Bool :=
  seen.bind sync.pending

/-- Clock readings that begin at `clock` or later and do not fall behind the naps between them. -/
def Timely : Nanoseconds → List Moment → Prop
  | _, [] => True
  | clock, moment :: rest =>
    (∀ time, moment = .clock time → clock ≤ time) ∧ Timely (moment.advance clock) rest

section Clock

theorem earliest_append (past moments : List Moment) :
    earliest (past ++ moments) = moments.foldl Moment.advance (earliest past) :=
  List.foldl_append

theorem timely_append {clock : Nanoseconds} {front back : List Moment}
    (first : Timely clock front) (second : Timely (front.foldl Moment.advance clock) back) :
    Timely clock (front ++ back) := by
  induction front generalizing clock with
  | nil => exact second
  | cons moment rest ih => exact ⟨first.1, ih first.2 second⟩

end Clock

/-- What passes between two looks: a reading of the clock if there is a deadline, which must not
have come, and a nap. -/
inductive Dozes (pollInterval : Nanoseconds) : Option Nanoseconds → List Moment → Prop
  | endless : Dozes pollInterval none [.nap pollInterval]
  | before {deadline time : Nanoseconds} (left : time < deadline) :
      Dozes pollInterval (some deadline)
        [.clock time, .nap (min (deadline - time) pollInterval)]

inductive Rounds (sync : Synchronizer) (pollInterval : Nanoseconds)
    (deadline : Option Nanoseconds) : Nat → List Moment → Option (Except Error Bool) → Prop
  | exhausted : Rounds sync pollInterval deadline 0 [] none
  | late {patience : Nat} {limit time : Nanoseconds} (finite : deadline = some limit)
      (reached : limit ≤ time) :
      Rounds sync pollInterval deadline (patience + 1) [.clock time] (some (.ok false))
  | settled {patience : Nat} {dozing : List Moment} {seen : Except Error Bytes}
      {verdict : Except Error Bool} (dozes : Dozes pollInterval deadline dozing)
      (found : sync.verdict seen = verdict) (decisive : verdict ≠ .ok false) :
      Rounds sync pollInterval deadline (patience + 1) (dozing ++ [.look seen]) (some verdict)
  | again {patience : Nat} {dozing later : List Moment} {seen : Except Error Bytes}
      {answer : Option (Except Error Bool)} (dozes : Dozes pollInterval deadline dozing)
      (idle : sync.verdict seen = .ok false)
      (rounds : Rounds sync pollInterval deadline patience later answer) :
      Rounds sync pollInterval deadline (patience + 1) (dozing ++ .look seen :: later) answer

section Runs

variable (outlook : Outlook) (name : String) (sync : Synchronizer)

theorem framePending_outlook (past : List Moment) :
    (outlook.connection name sync).framePending past =
      (sync.verdict (outlook.shown past), past ++ [.look (outlook.shown past)]) := by
  rw [framePending_eq]
  rfl

variable (pollInterval : Nanoseconds) (deadline : Option Nanoseconds)

-- A round either finds its time up or naps.
theorem dozes_outlook (patience : Nat) (past : List Moment) :
    (∃ limit time, deadline = some limit ∧ limit ≤ time ∧ Timely (earliest past) [.clock time] ∧
      Connection.remaining outlook.surroundings deadline past = (none, past ++ [.clock time])) ∨
    ∃ dozing left reached, Dozes pollInterval deadline dozing ∧ Timely (earliest past) dozing ∧
      Connection.remaining outlook.surroundings deadline past = (some left, reached) ∧
      (outlook.connection name sync).pause outlook.surroundings pollInterval left patience
        reached = (some (.ok true), past ++ dozing) := by
  cases deadline with
  | none => exact .inr ⟨[.nap pollInterval], none, past, .endless, ⟨nofun, trivial⟩, rfl, rfl⟩
  | some limit =>
    let time := outlook.reading past
    have read : outlook.surroundings.now past = (time, past ++ [.clock time]) := rfl
    have kept : Timely (earliest past) [.clock time] := by
      refine ⟨fun shown same => ?_, trivial⟩
      cases same
      exact outlook.earliest_le past
    rcases Nat.lt_or_ge time limit with left | reached
    · have more : Connection.remaining outlook.surroundings (some limit) past =
          (some (some (limit - time)), past ++ [.clock time]) := by
        rw [Connection.remaining, StateM.bind_of_eq read, if_neg (Nat.not_le.mpr left)]
        rfl
      refine .inr ⟨_, some (limit - time), past ++ [.clock time], .before left,
        timely_append kept ⟨nofun, trivial⟩, more, ?_⟩
      exact congrArg (Prod.mk _) (List.append_assoc past _ _)
    · refine .inl ⟨limit, time, rfl, reached, kept, ?_⟩
      rw [Connection.remaining, StateM.bind_of_eq read, if_pos reached]
      rfl

theorem waitRounds_outlook (patience : Nat) (past : List Moment) :
    ∃ answer moments,
      (outlook.connection name sync).waitRounds outlook.surroundings pollInterval deadline patience
        past = (answer, past ++ moments) ∧
      Rounds sync pollInterval deadline patience moments answer ∧
      Timely (earliest past) moments := by
  induction patience generalizing past with
  | zero => exact ⟨none, [], congrArg (Prod.mk _) (List.append_nil past).symm, .exhausted, trivial⟩
  | succ patience ih =>
    unfold Connection.waitRounds
    obtain ⟨limit, time, finite, reached, kept, late⟩ | ⟨dozing, left, begun, dozes, kept, more,
        paused⟩ := dozes_outlook outlook name sync pollInterval deadline (patience + 1) past
    · rw [StateM.bind_of_eq late]
      exact ⟨_, _, rfl, .late finite reached, kept⟩
    · rw [StateM.bind_of_eq more]
      dsimp only
      rw [StateM.bind_of_eq paused]
      dsimp only
      have looked := framePending_outlook outlook name sync (past ++ dozing)
      have looking : Timely (earliest past) (dozing ++ [.look (outlook.shown (past ++ dozing))]) :=
        timely_append kept ⟨nofun, trivial⟩
      generalize outlook.shown (past ++ dozing) = seen at looked looking
      rw [List.append_assoc] at looked
      rw [StateM.bind_of_eq looked]
      cases found : sync.verdict seen with
      | error error => exact ⟨_, _, rfl, .settled dozes found nofun, looking⟩
      | ok pending =>
        cases pending with
        | true => exact ⟨_, _, rfl, .settled dozes found nofun, looking⟩
        | false =>
          obtain ⟨answer, later, ran, rounds, onward⟩ := ih (past ++ (dozing ++ [.look seen]))
          rw [earliest_append] at onward
          have joined : dozing ++ [.look seen] ++ later = dozing ++ .look seen :: later :=
            (List.append_cons dozing _ later).symm
          rw [List.append_assoc past, joined] at ran
          exact ⟨answer, _, ran, .again dozes found rounds, joined ▸ timely_append looking onward⟩

end Runs

section Dozing

variable {pollInterval : Nanoseconds} {deadline : Option Nanoseconds} {dozing : List Moment}

theorem Dozes.length_naps (dozes : Dozes pollInterval deadline dozing) :
    (naps dozing).length = 1 := by
  cases dozes <;> rfl

theorem Dozes.look_suffix_iff (dozes : Dozes pollInterval deadline dozing)
    {seen first : Except Error Bytes} {rest later : List Moment} :
    .look seen :: rest <:+ dozing ++ .look first :: later ↔
      (seen = first ∧ rest = later) ∨ .look seen :: rest <:+ later := by
  cases dozes <;> simp [List.suffix_cons_iff]

theorem Dozes.nap_suffix_iff (dozes : Dozes pollInterval deadline dozing) {length : Nanoseconds}
    {first : Except Error Bytes} {rest later : List Moment} :
    .nap length :: rest <:+ dozing ++ .look first :: later ↔
      (length ∈ naps dozing ∧ rest = .look first :: later) ∨ .nap length :: rest <:+ later := by
  cases dozes <;> simp [List.suffix_cons_iff]

end Dozing

namespace Rounds

variable {sync : Synchronizer} {pollInterval : Nanoseconds} {deadline : Option Nanoseconds}
  {patience : Nat} {moments : List Moment} {answer : Option (Except Error Bool)}

theorem decides (rounds : Rounds sync pollInterval deadline patience moments answer)
    {seen : Except Error Bytes} {rest : List Moment} (shown : .look seen :: rest <:+ moments) :
    sync.verdict seen = .ok false ∨ rest = [] ∧ answer = some (sync.verdict seen) := by
  induction rounds with
  | exhausted => simp at shown
  | late finite reached => simp [List.suffix_cons_iff] at shown
  | settled dozes found decisive =>
    obtain ⟨rfl, rfl⟩ | beyond := dozes.look_suffix_iff.mp shown
    · exact .inr ⟨rfl, congrArg some found.symm⟩
    · simp at beyond
  | again dozes idle rounds ih =>
    obtain ⟨rfl, rfl⟩ | beyond := dozes.look_suffix_iff.mp shown
    · exact .inl idle
    · exact ih beyond

theorem decided (rounds : Rounds sync pollInterval deadline patience moments answer)
    {verdict : Except Error Bool} (decisive : verdict ≠ .ok false)
    (answered : answer = some verdict) :
    ∃ seen, moments.getLast? = some (.look seen) ∧ sync.verdict seen = verdict := by
  induction rounds with
  | exhausted => cases answered
  | late finite reached =>
    cases answered
    exact absurd rfl decisive
  | settled dozes found _ =>
    cases answered
    exact ⟨_, List.getLast?_concat, found⟩
  | again dozes idle rounds ih =>
    obtain ⟨seen, last, found⟩ := ih answered
    exact ⟨seen, by simp [List.getLast?_cons, last], found⟩

theorem gaveUp (rounds : Rounds sync pollInterval deadline patience moments answer)
    (answered : answer = some (.ok false)) :
    ∃ limit time, deadline = some limit ∧ moments.getLast? = some (.clock time) ∧
      limit ≤ time := by
  induction rounds with
  | exhausted => cases answered
  | late finite reached => exact ⟨_, _, finite, rfl, reached⟩
  | settled dozes found decisive =>
    cases answered
    exact absurd rfl decisive
  | again dozes idle rounds ih =>
    obtain ⟨limit, time, finite, last, reached⟩ := ih answered
    exact ⟨limit, time, finite, by simp [List.getLast?_cons, last], reached⟩

theorem looksAgain (rounds : Rounds sync pollInterval deadline patience moments answer)
    {length : Nanoseconds} {rest : List Moment} (napped : .nap length :: rest <:+ moments) :
    ∃ seen later, rest = .look seen :: later := by
  induction rounds with
  | exhausted => simp at napped
  | late finite reached => simp [List.suffix_cons_iff] at napped
  | settled dozes found decisive =>
    obtain ⟨-, rfl⟩ | beyond := dozes.nap_suffix_iff.mp napped
    · exact ⟨_, _, rfl⟩
    · simp at beyond
  | again dozes idle rounds ih =>
    obtain ⟨-, rfl⟩ | beyond := dozes.nap_suffix_iff.mp napped
    · exact ⟨_, _, rfl⟩
    · exact ih beyond

theorem endless (rounds : Rounds sync pollInterval none patience moments answer)
    {length : Nanoseconds} (napped : length ∈ naps moments) : length = pollInterval := by
  generalize unlimited : none = deadline at rounds
  induction rounds with
  | exhausted => simp at napped
  | late finite reached => simp at napped
  | settled dozes found decisive =>
    subst unlimited
    cases dozes
    simpa using napped
  | again dozes idle rounds ih =>
    subst unlimited
    cases dozes
    obtain same | later : length = pollInterval ∨ length ∈ naps _ := by
      simpa using napped
    · exact same
    · exact ih later

theorem napless_first {limit : Nanoseconds}
    (rounds : Rounds sync pollInterval (some limit) patience moments answer)
    (length : Nanoseconds) : moments.head? ≠ some (.nap length) := by
  cases rounds with
  | exhausted => nofun
  | late finite reached => nofun
  | settled dozes found decisive => cases dozes; nofun
  | again dozes idle rounds => cases dozes; nofun

theorem limited {limit : Nanoseconds}
    (rounds : Rounds sync pollInterval (some limit) patience moments answer)
    {moment : Moment} {length : Nanoseconds} {rest : List Moment}
    (napped : moment :: .nap length :: rest <:+ moments) :
    ∃ time < limit, moment = .clock time ∧ length = min (limit - time) pollInterval := by
  generalize finite : some limit = deadline at rounds
  induction rounds with
  | exhausted => simp at napped
  | late finite reached => simp [List.suffix_cons_iff] at napped
  | settled dozes found decisive =>
    subst finite
    cases dozes with
    | before left =>
      obtain ⟨rfl, rfl, rfl⟩ : moment = .clock _ ∧ length = _ ∧ rest = _ := by
        simpa [List.suffix_cons_iff] using napped
      exact ⟨_, left, rfl, rfl⟩
  | again dozes idle rounds ih =>
    subst finite
    cases dozes with
    | before left =>
      simp only [List.cons_append, List.nil_append, List.suffix_cons_iff, List.cons.injEq,
        Moment.nap.injEq] at napped
      obtain ⟨rfl, rfl, -⟩ | ⟨-, absent, -⟩ | ⟨-, first⟩ | later := napped
      · exact ⟨_, left, rfl, rfl⟩
      · cases absent
      -- Looking is not followed by a nap before the clock is read.
      · exact absurd (congrArg List.head? first.symm) (rounds.napless_first length)
      · exact ih later

theorem unanswered (rounds : Rounds sync pollInterval deadline patience moments answer)
    (unsettled : answer = none) : (naps moments).length = patience := by
  induction rounds with
  | exhausted => rfl
  | late finite reached => cases unsettled
  | settled dozes found decisive => cases unsettled
  | again dozes idle rounds ih =>
    rw [naps_append, naps_look, List.length_append, dozes.length_naps, ih unsettled, Nat.add_comm]

-- No nap but the last is shorter than the shortest, and the last begins before the deadline.
theorem last_nap_before {limit clock shortest : Nanoseconds} {earlier : Nat}
    (coarse : shortest ≤ pollInterval)
    (rounds : Rounds sync pollInterval (some limit) patience moments answer)
    (timely : Timely clock moments) (counted : (naps moments).length = earlier + 1) :
    clock + earlier * shortest < limit := by
  generalize finite : some limit = deadline at rounds
  induction rounds generalizing clock earlier with
  | exhausted => cases counted
  | late finite reached => cases counted
  | settled dozes found decisive =>
    subst finite
    cases dozes with
    | before left =>
      obtain rfl : earlier = 0 := by simpa using counted.symm
      simpa using Nat.lt_of_le_of_lt (timely.1 _ rfl) left
  | @again _ _ later _ _ dozes idle rounds ih =>
    subst finite
    cases dozes with
    | @before _ time left =>
      have read : clock ≤ time := timely.1 _ rfl
      have rest : (naps later).length = earlier := by simpa using counted
      cases earlier with
      | zero => simpa using Nat.lt_of_le_of_lt read left
      | succ earlier =>
        have onward : time + min (limit - time) pollInterval + earlier * shortest < limit :=
          ih timely.2.2.2 rest
        -- A nap that is cut short ends at the deadline, and no other one follows.
        have whole : min (limit - time) pollInterval = pollInterval := by
          refine Nat.min_eq_right (Nat.le_of_not_lt fun short => ?_)
          rw [Nat.min_eq_left (Nat.le_of_lt short)] at onward
          lia
        rw [whole] at onward
        rw [Nat.succ_mul]
        lia

theorem length_naps_le {limit start : Nanoseconds}
    (coarse : Nanoseconds.ofMilliseconds 1 ≤ pollInterval)
    (rounds : Rounds sync pollInterval (some (start + limit)) patience moments answer)
    (timely : Timely start moments) :
    (naps moments).length ≤ limit ⌈/⌉ Nanoseconds.ofMilliseconds 1 := by
  have positive : 0 < Nanoseconds.ofMilliseconds 1 := by decide
  cases counted : (naps moments).length with
  | zero => exact Nat.zero_le _
  | succ earlier =>
    have last := rounds.last_nap_before coarse timely counted
    have short : earlier * Nanoseconds.ofMilliseconds 1 < limit := Nat.lt_of_add_lt_add_left last
    by_contra more
    have long : limit ≤ Nanoseconds.ofMilliseconds 1 * earlier :=
      (ceilDiv_le_iff_le_mul positive).mp (Nat.le_of_not_lt more)
    rw [Nat.mul_comm] at long
    exact Nat.not_lt.mpr long short

theorem answered {limit start : Nanoseconds}
    (coarse : Nanoseconds.ofMilliseconds 1 ≤ pollInterval)
    (rounds : Rounds sync pollInterval (some (start + limit)) patience moments answer)
    (timely : Timely start moments) (patient : Receiver.patienceFor limit ≤ patience) :
    answer ≠ none := by
  intro unsettled
  have naps := rounds.length_naps_le coarse timely
  rw [rounds.unanswered unsettled] at naps
  have positive : 0 < Nanoseconds.ofMilliseconds 1 := by decide
  have few : limit ⌈/⌉ Nanoseconds.ofMilliseconds 1 ≤ limit / Nanoseconds.ofMilliseconds 1 + 1 :=
    (ceilDiv_le_iff_le_mul positive).mpr (Nat.lt_mul_div_succ limit positive).le
  rw [Receiver.patienceFor] at patient
  lia

end Rounds

inductive Waits (sync : Synchronizer) (pollInterval : Nanoseconds) (patience : Nat) :
    Option Nanoseconds → List Moment → Option (Except Error Bool) → Prop
  | settled {timeout : Option Nanoseconds} {seen : Except Error Bytes}
      {verdict : Except Error Bool} (found : sync.verdict seen = verdict)
      (decisive : verdict ≠ .ok false) :
      Waits sync pollInterval patience timeout [.look seen] (some verdict)
  | immediate {seen : Except Error Bytes} (idle : sync.verdict seen = .ok false) :
      Waits sync pollInterval patience (some 0) [.look seen] (some (.ok false))
  | endless {seen : Except Error Bytes} {later : List Moment}
      {answer : Option (Except Error Bool)} (idle : sync.verdict seen = .ok false)
      (rounds : Rounds sync pollInterval none patience later answer) :
      Waits sync pollInterval patience none (.look seen :: later) answer
  | limited {limit start : Nanoseconds} {seen : Except Error Bytes} {later : List Moment}
      {answer : Option (Except Error Bool)} (idle : sync.verdict seen = .ok false)
      (positive : limit ≠ 0)
      (rounds : Rounds sync pollInterval (some (start + limit)) patience later answer)
      (timely : Timely start later) :
      Waits sync pollInterval patience (some limit) (.look seen :: .clock start :: later) answer

theorem wait_outlook (outlook : Outlook) (name : String) (sync : Synchronizer)
    (pollInterval : Nanoseconds) (timeout : Option Nanoseconds) (patience : Nat) :
    ∃ answer moments,
      (outlook.connection name sync).wait outlook.surroundings timeout pollInterval patience [] =
        (answer, moments) ∧
      Waits sync pollInterval patience timeout moments answer := by
  have looked := framePending_outlook outlook name sync []
  generalize outlook.shown [] = seen at looked
  unfold Connection.wait
  rw [StateM.bind_of_eq looked]
  cases found : sync.verdict seen with
  | error error => exact ⟨_, _, rfl, .settled found nofun⟩
  | ok pending =>
    cases pending with
    | true => exact ⟨_, _, rfl, .settled found nofun⟩
    | false =>
      match timeout with
      | some 0 => exact ⟨_, _, rfl, .immediate found⟩
      | none =>
        obtain ⟨answer, later, ran, rounds, -⟩ := waitRounds_outlook outlook name sync pollInterval
          none patience [.look seen]
        exact ⟨answer, _, ran, .endless found rounds⟩
      | some (limit + 1) =>
        let start := outlook.reading [.look seen]
        obtain ⟨answer, later, ran, rounds, timely⟩ := waitRounds_outlook outlook name sync
          pollInterval (some (start + (limit + 1))) patience [.look seen, .clock start]
        exact ⟨answer, _, ran, .limited found (Nat.succ_ne_zero limit) rounds timely⟩

/-- What a wait without an event owes to whoever asks for it. -/
structure WaitContract (sync : Synchronizer) (pollInterval : Nanoseconds)
    (timeout : Option Nanoseconds) (patience : Nat) (moments : List Moment)
    (answer : Option (Except Error Bool)) : Prop where
  looksFirst : ∃ seen rest, moments = .look seen :: rest
  -- The first look that finds a frame or fails is the last thing that happens.
  decides : ∀ seen rest, .look seen :: rest <:+ moments →
    sync.verdict seen = .ok false ∨ rest = [] ∧ answer = some (sync.verdict seen)
  decided : ∀ verdict, verdict ≠ .ok false → answer = some verdict →
    ∃ seen, moments.getLast? = some (.look seen) ∧ sync.verdict seen = verdict
  gaveUp : answer = some (.ok false) → timeout = some 0 ∨ ∃ limit start time,
    timeout = some limit ∧ (readings moments).head? = some start ∧
      moments.getLast? = some (.clock time) ∧ start + limit ≤ time
  looksAgain : ∀ length rest, .nap length :: rest <:+ moments →
    ∃ seen later, rest = .look seen :: later
  endless : timeout = none → ∀ length ∈ naps moments, length = pollInterval
  -- The time left is what the reading right before the nap leaves.
  limited : ∀ limit, timeout = some limit → ∀ moment length rest,
    moment :: .nap length :: rest <:+ moments → ∃ start time,
      (readings moments).head? = some start ∧ moment = .clock time ∧ time < start + limit ∧
        length = min (start + limit - time) pollInterval
  immediate : timeout = some 0 → ∃ seen, moments = [.look seen]
  ends : ∀ limit, timeout = some limit →
    (naps moments).length ≤ limit ⌈/⌉ (1000000 : Nanoseconds) ∧
      (Receiver.patienceFor limit ≤ patience → answer ≠ none)
  unanswered : answer = none → (naps moments).length = patience

namespace Waits

variable {sync : Synchronizer} {pollInterval : Nanoseconds} {patience : Nat}
  {timeout : Option Nanoseconds} {moments : List Moment} {answer : Option (Except Error Bool)}
  (waits : Waits sync pollInterval patience timeout moments answer)

include waits

theorem decides {seen : Except Error Bytes} {rest : List Moment}
    (shown : .look seen :: rest <:+ moments) :
    sync.verdict seen = .ok false ∨ rest = [] ∧ answer = some (sync.verdict seen) := by
  cases waits with
  | settled found decisive =>
    obtain ⟨rfl, rfl⟩ : seen = _ ∧ rest = [] := by simpa [List.suffix_cons_iff] using shown
    exact .inr ⟨rfl, congrArg some found.symm⟩
  | immediate idle =>
    obtain ⟨rfl, rfl⟩ : seen = _ ∧ rest = [] := by simpa [List.suffix_cons_iff] using shown
    exact .inl idle
  | endless idle rounds =>
    obtain ⟨rfl, rfl⟩ | later : (seen = _ ∧ rest = _) ∨ .look seen :: rest <:+ _ := by
      simpa [List.suffix_cons_iff] using shown
    · exact .inl idle
    · exact rounds.decides later
  | limited idle positive rounds timely =>
    obtain ⟨rfl, rfl⟩ | later : (seen = _ ∧ rest = _) ∨ .look seen :: rest <:+ _ := by
      simpa [List.suffix_cons_iff] using shown
    · exact .inl idle
    · exact rounds.decides later

theorem decided {verdict : Except Error Bool} (decisive : verdict ≠ .ok false)
    (answered : answer = some verdict) :
    ∃ seen, moments.getLast? = some (.look seen) ∧ sync.verdict seen = verdict := by
  cases waits with
  | settled found _ =>
    cases answered
    exact ⟨_, rfl, found⟩
  | immediate idle =>
    cases answered
    exact absurd rfl decisive
  | endless idle rounds =>
    obtain ⟨seen, last, found⟩ := rounds.decided decisive answered
    exact ⟨seen, by simp [List.getLast?_cons, last], found⟩
  | limited idle positive rounds timely =>
    obtain ⟨seen, last, found⟩ := rounds.decided decisive answered
    exact ⟨seen, by simp [List.getLast?_cons, last], found⟩

theorem gaveUp (answered : answer = some (.ok false)) :
    timeout = some 0 ∨ ∃ limit start time, timeout = some limit ∧
      (readings moments).head? = some start ∧ moments.getLast? = some (.clock time) ∧
        start + limit ≤ time := by
  cases waits with
  | settled found decisive =>
    cases answered
    exact absurd rfl decisive
  | immediate idle => exact .inl rfl
  | endless idle rounds =>
    obtain ⟨_, _, finite, -⟩ := rounds.gaveUp answered
    cases finite
  | @limited limit start _ _ _ idle positive rounds timely =>
    obtain ⟨_, time, finite, last, reached⟩ := rounds.gaveUp answered
    cases finite
    exact .inr ⟨limit, start, time, rfl, rfl, by simp [List.getLast?_cons, last], reached⟩

theorem looksAgain {length : Nanoseconds} {rest : List Moment}
    (napped : .nap length :: rest <:+ moments) : ∃ seen later, rest = .look seen :: later := by
  cases waits with
  | settled found decisive => simp [List.suffix_cons_iff] at napped
  | immediate idle => simp [List.suffix_cons_iff] at napped
  | endless idle rounds => exact rounds.looksAgain (by simpa [List.suffix_cons_iff] using napped)
  | limited idle positive rounds timely =>
    exact rounds.looksAgain (by simpa [List.suffix_cons_iff] using napped)

theorem endless_naps (unlimited : timeout = none) {length : Nanoseconds}
    (napped : length ∈ naps moments) : length = pollInterval := by
  cases waits with
  | settled found decisive => simp at napped
  | immediate idle => cases unlimited
  | endless idle rounds => exact rounds.endless (by simpa using napped)
  | limited idle positive rounds timely => cases unlimited

theorem limited_naps {limit : Nanoseconds} (finite : timeout = some limit) {moment : Moment}
    {length : Nanoseconds} {rest : List Moment}
    (napped : moment :: .nap length :: rest <:+ moments) :
    ∃ start time, (readings moments).head? = some start ∧ moment = .clock time ∧
      time < start + limit ∧ length = min (start + limit - time) pollInterval := by
  cases waits with
  | settled found decisive => simp [List.suffix_cons_iff] at napped
  | immediate idle => simp [List.suffix_cons_iff] at napped
  | endless idle rounds => cases finite
  | @limited _ start _ _ _ idle positive rounds timely =>
    cases finite
    simp only [List.suffix_cons_iff, List.cons.injEq] at napped
    obtain ⟨-, absent, -⟩ | ⟨-, first⟩ | later := napped
    · cases absent
    · exact absurd (congrArg List.head? first.symm) (rounds.napless_first length)
    · obtain ⟨time, left, read, short⟩ := rounds.limited later
      exact ⟨start, time, rfl, read, left, short⟩

theorem looks_once (zero : timeout = some 0) : ∃ seen, moments = [.look seen] := by
  cases waits with
  | settled found decisive => exact ⟨_, rfl⟩
  | immediate idle => exact ⟨_, rfl⟩
  | endless idle rounds => cases zero
  | limited idle positive rounds timely =>
    cases zero
    exact absurd rfl positive

theorem unanswered (unsettled : answer = none) : (naps moments).length = patience := by
  cases waits with
  | settled found decisive => cases unsettled
  | immediate idle => cases unsettled
  | endless idle rounds => exact rounds.unanswered unsettled
  | limited idle positive rounds timely => exact rounds.unanswered unsettled

theorem ends (coarse : Nanoseconds.ofMilliseconds 1 ≤ pollInterval) {limit : Nanoseconds}
    (finite : timeout = some limit) :
    (naps moments).length ≤ limit ⌈/⌉ (1000000 : Nanoseconds) ∧
      (Receiver.patienceFor limit ≤ patience → answer ≠ none) := by
  cases waits with
  | settled found decisive => exact ⟨Nat.zero_le _, nofun⟩
  | immediate idle => exact ⟨Nat.zero_le _, nofun⟩
  | endless idle rounds => cases finite
  | limited idle positive rounds timely =>
    cases finite
    have few := rounds.length_naps_le coarse timely
    exact ⟨few, rounds.answered coarse timely⟩

end Waits

theorem ReceiverSettings.millisecond_le_pollInterval (settings : ReceiverSettings) :
    Nanoseconds.ofMilliseconds 1 ≤ settings.pollInterval :=
  Nat.mul_le_mul_right _ (Nat.le_max_right _ _)

-- Whatever the region shows and the clock reads, and however a receiver is set up.
theorem wait_keeps_contract (outlook : Outlook) (name : String) (sync : Synchronizer)
    (receiver : Receiver (StateM (List Moment))) (timeout : Option Nanoseconds) (patience : Nat) :
    let connection := outlook.connection name sync
    let pollInterval : Nanoseconds := max receiver.settings.pollIntervalMs.toNat 1 * 1000000
    ∃ answer moments,
      connection.wait outlook.surroundings timeout pollInterval patience [] = (answer, moments) ∧
      WaitContract sync pollInterval timeout patience moments answer ∧
      ∃ value after,
        Receiver.waitForFrame outlook.surroundings timeout patience
          { receiver with connection := some connection } [] = ((value, after), moments) ∧
        after.connection = some connection := by
  intro connection pollInterval
  have interval : receiver.settings.pollInterval = pollInterval := rfl
  obtain ⟨answer, moments, ran, waits⟩ :=
    wait_outlook outlook name sync pollInterval timeout patience
  have contract : WaitContract sync pollInterval timeout patience moments answer :=
    { looksFirst := by cases waits <;> exact ⟨_, _, rfl⟩
      decides := fun _ _ => waits.decides
      decided := fun _ => waits.decided
      gaveUp := waits.gaveUp
      looksAgain := fun _ _ => waits.looksAgain
      endless := fun unlimited _ => waits.endless_naps unlimited
      limited := fun _ finite _ _ _ => waits.limited_naps finite
      immediate := waits.looks_once
      ends := fun _ => waits.ends receiver.settings.millisecond_le_pollInterval
      unanswered := waits.unanswered }
  refine ⟨answer, moments, ran, contract, ?_⟩
  rw [Receiver.waitForFrame, Receiver.get_bind]
  dsimp only
  rw [Receiver.lift_bind, interval, ran]
  cases answer with
  | none => exact ⟨_, _, rfl, rfl⟩
  | some verdict => cases verdict <;> exact ⟨_, _, rfl, rfl⟩

-- Nothing is ever published, and naps take no longer than they should.
def quietOutlook : Outlook where
  length _ := Protocol.single.headerLength
  shown _ := .ok (Header.single
    { magic := Header.magicNumber, version := 1
      picture := { width := 0, height := 0, stride := 0, format := 0 }
      timestampMs := 0, frameNumber := 0, dataSize := 0, ready := 0 }).encode
  reading := earliest
  earliest_le _ := Nat.le_refl _

example :
    let connection := quietOutlook.connection "" (Synchronizer.start .single)
    let moments :=
      (connection.wait quietOutlook.surroundings (some 3000000) 2000000 9 []).2
    naps moments = [2000000, 1000000] := by
  decide +kernel

end FrameTap
