import FrameTap.Statistics
import Mathlib.Algebra.BigOperators.Group.List.Basic
import Mathlib.Data.List.Induction
import Mathlib.Data.UInt

set_option autoImplicit false

namespace FrameTap

namespace Statistics

inductive Purpose
  | record (received dropped torn : UInt64)
  | framesPerSecond
  | snapshot

structure Visit where
  now : Nanoseconds
  purpose : Purpose

inductive Call
  | visit (visit : Visit)
  | reset (now : Nanoseconds)

inductive Answer
  | done
  | framesPerSecond (value : Float)
  | snapshot (value : Snapshot)

def Purpose.answer (received dropped torn : UInt64) (framesPerSecond : Float) : Purpose → Answer
  | .record .. => .done
  | .framesPerSecond => .framesPerSecond framesPerSecond
  | .snapshot => .snapshot { received, dropped, torn, framesPerSecond }

namespace Visit

-- A read records nothing.
def received (visit : Visit) : UInt64 :=
  match visit.purpose with
  | .record received _ _ => received
  | _ => 0

def dropped (visit : Visit) : UInt64 :=
  match visit.purpose with
  | .record _ dropped _ => dropped
  | _ => 0

def torn (visit : Visit) : UInt64 :=
  match visit.purpose with
  | .record _ _ torn => torn
  | _ => 0

def serve (visit : Visit) (statistics : Statistics) : Answer × Statistics :=
  match visit.purpose with
  | .record received dropped torn =>
    (.done, statistics.record visit.now received dropped torn)
  | .framesPerSecond =>
    let (value, next) := statistics.framesPerSecond visit.now
    (.framesPerSecond value, next)
  | .snapshot =>
    let (value, next) := statistics.snapshot visit.now
    (.snapshot value, next)

end Visit

def Call.serve (statistics : Statistics) : Call → Answer × Statistics
  | .visit made => made.serve statistics
  | .reset now => (.done, statistics.reset now)

def afterCalls (statistics : Statistics) (calls : List Call) : Statistics :=
  calls.foldl (fun statistics call => (call.serve statistics).2) statistics

structure Session where
  began : Nanoseconds
  visits : List Visit

namespace Session

def extend (session : Session) : Call → Session
  | .visit made => { session with visits := session.visits ++ [made] }
  | .reset now => { began := now, visits := [] }

def received (session : Session) : UInt64 := (session.visits.map (·.received)).sum

def dropped (session : Session) : UInt64 := (session.visits.map (·.dropped)).sum

def torn (session : Session) : UInt64 := (session.visits.map (·.torn)).sum

end Session

def sinceReset (created : Nanoseconds) (calls : List Call) : Session :=
  calls.foldl Session.extend { began := created, visits := [] }

/-- A window that was closed: the visits that came too early to close it, and the one that did. -/
@[ext] structure Window where
  started : Nanoseconds
  early : List Visit
  closing : Visit
  -- A second, in nanoseconds.
  early_lt : ∀ visit ∈ early, visit.now < started + 1000000000
  due : started + 1000000000 ≤ closing.now

namespace Window

variable (window : Window)

def visits : List Visit := window.early ++ [window.closing]

def ended : Nanoseconds := window.closing.now

def frames : UInt64 := (window.visits.map (·.received)).sum

def closed : ClosedWindow where
  frames := window.frames
  length := window.ended - window.started

end Window

def Consecutive : Nanoseconds → List Window → Nanoseconds → Prop
  | began, [], opened => began = opened
  | began, window :: rest, opened => window.started = began ∧ Consecutive window.ended rest opened

/-- The visits of a session in their windows, in order; the last window is still open. -/
@[ext] structure Division (session : Session) where
  windows : List Window
  opened : Nanoseconds
  pending : List Visit
  consecutive : Consecutive session.began windows opened
  complete : windows.flatMap (·.visits) ++ pending = session.visits
  pending_lt : ∀ visit ∈ pending, visit.now < opened + 1000000000

namespace Division

variable {session : Session} (division : Division session)

def starts : List Nanoseconds := session.began :: division.windows.map (·.ended)

def throughput : Float :=
  match division.windows.getLast? with
  | none => 0
  | some window =>
    window.frames.toFloat / Nanoseconds.toSeconds (window.ended - window.started)

end Division

section Steps

variable {statistics : Statistics} {visit : Visit}

variable (statistics visit) in
-- A read does what recording nothing would do.
theorem serve_eq_record : (visit.serve statistics).2 =
    statistics.record visit.now visit.received visit.dropped visit.torn := by
  obtain ⟨now, purpose⟩ := visit
  cases purpose with
  | record received dropped torn => rfl
  | framesPerSecond =>
    simp [Visit.serve, Visit.received, Visit.dropped, Visit.torn, record, framesPerSecond]
  | snapshot =>
    simp [Visit.serve, Visit.received, Visit.dropped, Visit.torn, record, snapshot,
      framesPerSecond]

theorem roll_of_due {now : Nanoseconds} (due : statistics.window.started + windowLength ≤ now) :
    statistics.roll now =
      { statistics with
        window := { started := now, frames := 0 }
        lastClosed := some
          { frames := statistics.window.frames, length := now - statistics.window.started } } := by
  have elapsed : windowLength ≤ now - statistics.window.started := Nat.le_sub_of_add_le' due
  exact if_pos elapsed

theorem roll_of_early {now : Nanoseconds}
    (early : now < statistics.window.started + windowLength) :
    statistics.roll now = statistics := by
  have second : 0 < windowLength := by decide
  have elapsed : ¬windowLength ≤ now - statistics.window.started := by lia
  exact if_neg elapsed

variable (statistics visit) in
-- Records add to the totals, whether or not a window is closed.
theorem serve_totals :
    (visit.serve statistics).2.received = statistics.received + visit.received ∧
      (visit.serve statistics).2.dropped = statistics.dropped + visit.dropped ∧
      (visit.serve statistics).2.torn = statistics.torn + visit.torn := by
  rw [serve_eq_record, record, roll]
  dsimp only
  split <;> exact ⟨rfl, rfl, rfl⟩

theorem serve_early (early : visit.now < statistics.window.started + windowLength) :
    (visit.serve statistics).2.window =
        { started := statistics.window.started
          frames := statistics.window.frames + visit.received } ∧
      (visit.serve statistics).2.lastClosed = statistics.lastClosed := by
  rw [serve_eq_record, record, roll_of_early]
  · exact ⟨rfl, rfl⟩
  · exact early

theorem serve_due (due : statistics.window.started + windowLength ≤ visit.now) :
    (visit.serve statistics).2.window = { started := visit.now, frames := 0 } ∧
      (visit.serve statistics).2.lastClosed = some
        { frames := statistics.window.frames + visit.received
          length := visit.now - statistics.window.started } := by
  rw [serve_eq_record, record, roll_of_due]
  · exact ⟨rfl, rfl⟩
  · exact due

theorem answer_serve (purpose : Purpose) (now : Nanoseconds) :
    let next := (Visit.serve ⟨now, purpose⟩ statistics).2
    (Visit.serve ⟨now, purpose⟩ statistics).1 =
      purpose.answer next.received next.dropped next.torn next.throughput := by
  cases purpose with
  | record received dropped torn => rfl
  | framesPerSecond => rfl
  | snapshot =>
    dsimp only [Visit.serve, snapshot, framesPerSecond, Purpose.answer, roll]
    split <;> rfl

end Steps

section Sums

variable {session : Session} (division : Division session)

theorem Window.second_le (window : Window) : 1000000000 ≤ window.closed.length :=
  Nat.le_sub_of_add_le' window.due

theorem Session.received_extend (visit : Visit) :
    (session.extend (.visit visit)).received = session.received + visit.received := by
  simp [extend, received]

theorem Session.dropped_extend (visit : Visit) :
    (session.extend (.visit visit)).dropped = session.dropped + visit.dropped := by
  simp [extend, dropped]

theorem Session.torn_extend (visit : Visit) :
    (session.extend (.visit visit)).torn = session.torn + visit.torn := by
  simp [extend, torn]

-- Each frame that was received is counted in one window.
theorem Division.received_eq : session.received =
    (division.windows.map (·.frames)).sum + (division.pending.map (·.received)).sum := by
  have inWindows : ((division.windows.flatMap (·.visits)).map (·.received)).sum =
      (division.windows.map (·.frames)).sum := by
    rw [List.map_flatMap, List.flatMap_def, List.sum_flatten, List.map_map]
    rfl
  rw [Session.received, ← division.complete, List.map_append, List.sum_append, inWindows]

theorem isChain_of_consecutive {began opened : Nanoseconds} {windows : List Window}
    (consecutive : Consecutive began windows opened) :
    (began :: windows.map (·.ended)).IsChain (fun start next => start + 1000000000 ≤ next) ∧
      (began :: windows.map (·.ended)).getLast? = some opened := by
  induction windows generalizing began with
  | nil => exact ⟨.singleton began, congrArg some consecutive⟩
  | cons window rest ih =>
    obtain ⟨rfl, later⟩ := consecutive
    obtain ⟨chain, last⟩ := ih later
    exact ⟨.cons_cons window.due chain, last⟩

end Sums

section Dividing

theorem consecutive_append {began middle opened : Nanoseconds} {front back : List Window}
    (first : Consecutive began front middle) (second : Consecutive middle back opened) :
    Consecutive began (front ++ back) opened := by
  induction front generalizing began with
  | nil =>
    obtain rfl : began = middle := first
    exact second
  | cons window rest ih => exact ⟨first.1, ih first.2⟩

variable {session : Session}

def Division.stay (division : Division session) (visit : Visit)
    (early : visit.now < division.opened + windowLength) :
    Division (session.extend (.visit visit)) where
  windows := division.windows
  opened := division.opened
  pending := division.pending ++ [visit]
  consecutive := division.consecutive
  complete := by rw [← List.append_assoc, division.complete, Session.extend]
  pending_lt := List.forall_mem_append.mpr
    ⟨division.pending_lt, List.forall_mem_singleton.mpr early⟩

def Division.last (division : Division session) (visit : Visit)
    (due : division.opened + windowLength ≤ visit.now) : Window where
  started := division.opened
  early := division.pending
  closing := visit
  early_lt := division.pending_lt
  due := due

def Division.close (division : Division session) (visit : Visit)
    (due : division.opened + windowLength ≤ visit.now) :
    Division (session.extend (.visit visit)) where
  windows := division.windows ++ [division.last visit due]
  opened := visit.now
  pending := []
  consecutive :=
    have closed : Consecutive division.opened [division.last visit due] visit.now := ⟨rfl, rfl⟩
    consecutive_append division.consecutive closed
  complete := by
    simp [Division.last, Window.visits, ← division.complete, Session.extend]
  pending_lt := List.forall_mem_nil _

structure Division.Shown (division : Division session) (statistics : Statistics) : Prop where
  received : statistics.received = session.received
  dropped : statistics.dropped = session.dropped
  torn : statistics.torn = session.torn
  window : statistics.window =
    { started := division.opened, frames := (division.pending.map (·.received)).sum }
  lastClosed : statistics.lastClosed = division.windows.getLast?.map (·.closed)

theorem Division.Shown.visit {division : Division session} {statistics : Statistics}
    (shown : division.Shown statistics) (visit : Visit) :
    ∃ next : Division (session.extend (.visit visit)), next.Shown (visit.serve statistics).2 := by
  obtain ⟨received, dropped, torn⟩ := serve_totals statistics visit
  rw [shown.received, ← Session.received_extend] at received
  rw [shown.dropped, ← Session.dropped_extend] at dropped
  rw [shown.torn, ← Session.torn_extend] at torn
  have started : statistics.window.started = division.opened := by rw [shown.window]
  rcases Nat.lt_or_ge visit.now (division.opened + windowLength) with early | due
  · obtain ⟨window, lastClosed⟩ := serve_early (by rwa [started])
    refine ⟨division.stay visit early, received, dropped, torn, ?_, ?_⟩
    · rw [window, shown.window]
      simp [stay]
    · rw [lastClosed, shown.lastClosed, stay]
  · obtain ⟨window, lastClosed⟩ := serve_due (by rwa [started])
    refine ⟨division.close visit due, received, dropped, torn, window, ?_⟩
    rw [lastClosed, shown.window]
    simp [close, last, Window.closed, Window.frames, Window.visits, Window.ended]

theorem exists_division (created : Nanoseconds) (calls : List Call) :
    ∃ division : Division (sinceReset created calls),
      division.Shown (afterCalls (start created) calls) := by
  induction calls using List.reverseRecOn with
  | nil =>
    exact ⟨⟨[], created, [], rfl, rfl, List.forall_mem_nil _⟩, rfl, rfl, rfl, rfl, rfl⟩
  | append_singleton earlier call ih =>
    obtain ⟨division, shown⟩ := ih
    rw [sinceReset, afterCalls, List.foldl_append, List.foldl_append]
    cases call with
    | visit made => exact shown.visit made
    | reset now =>
      exact ⟨⟨[], now, [], rfl, rfl, List.forall_mem_nil _⟩, rfl, rfl, rfl, rfl, rfl⟩

-- Where visits that come too early are followed by one that does not, the early ones are known.
theorem cut_unique {limit : Nanoseconds} {front other back rest : List Visit} {first second : Visit}
    (early : ∀ visit ∈ front, visit.now < limit) (due : limit ≤ first.now)
    (otherEarly : ∀ visit ∈ other, visit.now < limit) (otherDue : limit ≤ second.now)
    (same : front ++ first :: back = other ++ second :: rest) :
    front = other ∧ first = second ∧ back = rest := by
  induction front generalizing other with
  | nil =>
    cases other with
    | nil => exact ⟨rfl, List.cons.inj same⟩
    | cons visit others =>
      obtain ⟨rfl, -⟩ := List.cons.inj same
      exact absurd due (Nat.not_le_of_lt (otherEarly first List.mem_cons_self))
  | cons visit front ih =>
    cases other with
    | nil =>
      obtain ⟨rfl, -⟩ := List.cons.inj same
      exact absurd otherDue (Nat.not_le_of_lt (early visit List.mem_cons_self))
    | cons otherVisit others =>
      obtain ⟨rfl, later⟩ := List.cons.inj same
      obtain ⟨rfl, rest⟩ := ih (fun visit member => early visit (List.mem_cons_of_mem _ member))
        (fun visit member => otherEarly visit (List.mem_cons_of_mem _ member)) later
      exact ⟨rfl, rest⟩

-- Visits that all come too early for the window that starts now hold no closed window.
theorem eq_nil_of_early {began opened : Nanoseconds} {windows : List Window}
    {pending visits : List Visit} (consecutive : Consecutive began windows opened)
    (early : ∀ visit ∈ visits, visit.now < began + windowLength)
    (complete : windows.flatMap (·.visits) ++ pending = visits) : windows = [] := by
  cases windows with
  | nil => rfl
  | cons window rest =>
    obtain ⟨rfl, -⟩ := consecutive
    have closing : window.closing ∈ visits := by simp [← complete, Window.visits]
    exact absurd window.due (Nat.not_le_of_lt (early window.closing closing))

theorem windows_unique {began opened otherOpened : Nanoseconds} {windows others : List Window}
    {pending otherPending : List Visit} (consecutive : Consecutive began windows opened)
    (otherConsecutive : Consecutive began others otherOpened)
    (early : ∀ visit ∈ pending, visit.now < opened + windowLength)
    (otherEarly : ∀ visit ∈ otherPending, visit.now < otherOpened + windowLength)
    (same : windows.flatMap (·.visits) ++ pending = others.flatMap (·.visits) ++ otherPending) :
    windows = others ∧ opened = otherOpened ∧ pending = otherPending := by
  induction windows generalizing began others with
  | nil =>
    obtain rfl : began = opened := consecutive
    obtain rfl : others = [] := eq_nil_of_early otherConsecutive early same.symm
    exact ⟨rfl, otherConsecutive, same⟩
  | cons window rest ih =>
    cases others with
    | nil =>
      obtain rfl : began = otherOpened := otherConsecutive
      cases eq_nil_of_early consecutive otherEarly same
    | cons other others =>
      obtain ⟨started, later⟩ := consecutive
      obtain ⟨otherStarted, otherLater⟩ := otherConsecutive
      have together : other.started = window.started := otherStarted.trans started.symm
      simp only [List.flatMap_cons, Window.visits, List.append_assoc,
        List.singleton_append] at same
      obtain ⟨front, closing, back⟩ := cut_unique window.early_lt window.due
        (together ▸ other.early_lt) (together ▸ other.due) same
      obtain rfl : window = other := Window.ext together.symm front closing
      obtain ⟨rfl, opened⟩ := ih later otherLater back
      exact ⟨rfl, opened⟩

theorem Division.unique (division other : Division session) : division = other := by
  obtain ⟨windows, opened, pending⟩ := windows_unique division.consecutive other.consecutive
    division.pending_lt other.pending_lt (division.complete.trans other.complete.symm)
  exact Division.ext windows opened pending

theorem Division.Shown.throughput_eq {division : Division session} {statistics : Statistics}
    (shown : division.Shown statistics) : statistics.throughput = division.throughput := by
  rw [Statistics.throughput, shown.lastClosed, Division.throughput]
  cases division.windows.getLast? <;> rfl

end Dividing

/-- The visits since the last reset divide into windows in one way only, and the statistics tell of
this division. -/
theorem visits_divide (created : Nanoseconds) (calls : List Call) :
    let session := sinceReset created calls
    let statistics := afterCalls (start created) calls
    ∃ division : Division session, (∀ other : Division session, other = division) ∧
      statistics.received = session.received ∧
      statistics.dropped = session.dropped ∧
      statistics.torn = session.torn ∧
      statistics.received = (division.windows.map (·.frames)).sum + statistics.window.frames ∧
      statistics.window =
        { started := division.opened, frames := (division.pending.map (·.received)).sum } ∧
      statistics.lastClosed = division.windows.getLast?.map (·.closed) ∧
      division.starts.IsChain (fun start next => start + 1000000000 ≤ next) ∧
      division.starts.getLast? = some statistics.window.started ∧
      (∀ window ∈ division.windows, 1000000000 ≤ window.ended - window.started) ∧
      ∀ earlier visit, calls = earlier ++ [.visit visit] →
        (visit.serve (afterCalls (start created) earlier)).1 = visit.purpose.answer
          session.received session.dropped session.torn division.throughput := by
  intro session statistics
  obtain ⟨division, shown⟩ := exists_division created calls
  obtain ⟨chain, last⟩ := isChain_of_consecutive division.consecutive
  have window : statistics.window =
      { started := division.opened, frames := (division.pending.map (·.received)).sum } :=
    shown.window
  refine ⟨division, fun other => other.unique division, shown.received, shown.dropped, shown.torn,
    ?_, window, shown.lastClosed, chain, ?_, fun window _ => window.second_le, ?_⟩
  · rw [shown.received, division.received_eq, window]
  · rw [window]
    exact last
  · rintro earlier visit rfl
    have reached : statistics = (visit.serve (afterCalls (start created) earlier)).2 := by
      rw [show statistics = _ from List.foldl_append]
      rfl
    rw [answer_serve visit.purpose visit.now, ← reached, shown.received, shown.dropped, shown.torn,
      shown.throughput_eq]

end Statistics

end FrameTap
