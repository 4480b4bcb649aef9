import FrameTap.Proofs.Synchronizer.Polling
import Mathlib.Data.List.SplitBy

set_option autoImplicit false

namespace FrameTap

def numbers (polls : List Poll) : List UInt64 := polls.flatMap fun poll => frameNumbers poll.frames

def lost : List Poll → Nat
  | [] => 0
  | poll :: rest => poll.dropped + lost rest

-- A run is cut before each extraction that starts a session.
def sessions (polls : List Poll) : List (List Poll) :=
  polls.splitBy fun _ next => !next.startsSession

def currentSession (polls : List Poll) : List Poll := (sessions polls).getLastD []

-- Every number that one extraction delivers is greater than all that earlier ones did.
def Apart (polls : List Poll) : Prop :=
  polls.Pairwise fun earlier later =>
    ∀ a ∈ frameNumbers earlier.frames, ∀ b ∈ frameNumbers later.frames, a < b

-- No header that the extractions decided on gave two ready slots one number.
def DistinctScans (polls : List Poll) : Prop :=
  ∀ poll ∈ polls, ∀ header, poll.scan = .ok header → header.DistinctReady

structure Account (base : UInt64) (polls : List Poll) : Prop where
  above : ∀ number ∈ numbers polls, base < number
  ordered : (numbers polls).Pairwise (· ≤ ·)
  apart : Apart polls
  increasing : DistinctScans polls → (numbers polls).Pairwise (· < ·)
  lost_eq : lost polls = missed base (numbers polls)

theorem missed_append (previous : UInt64) (front back : List UInt64) :
    missed previous (front ++ back) =
      missed previous front + missed (front.getLastD previous) back := by
  induction front generalizing previous with
  | nil => exact (Nat.zero_add _).symm
  | cons number rest ih =>
    rw [List.cons_append, missed, ih, missed, List.getLastD_cons, Nat.add_assoc]

theorem getLastD_append (fallback : UInt64) (front back : List UInt64) :
    (front ++ back).getLastD fallback = back.getLastD (front.getLastD fallback) := by
  induction front generalizing fallback with
  | nil => rfl
  | cons number rest ih => rw [List.cons_append, List.getLastD_cons, List.getLastD_cons, ih]

theorem Account.nil (base : UInt64) : Account base [] := by
  refine ⟨?_, ?_, ?_, ?_, rfl⟩
  · simp [numbers]
  · exact List.Pairwise.nil
  · exact List.Pairwise.nil
  · exact fun _ => List.Pairwise.nil

theorem le_getLastD {previous : UInt64} {numbers : List UInt64}
    (ordered : (previous :: numbers).Pairwise (· ≤ ·)) :
    ∀ number ∈ previous :: numbers, number ≤ numbers.getLastD previous := by
  induction numbers generalizing previous with
  | nil =>
    intro number only
    rw [List.mem_singleton.mp only]
    exact UInt64.le_refl _
  | cons next rest ih =>
    obtain ⟨least, later⟩ := List.pairwise_cons.mp ordered
    intro number member
    rw [List.getLastD_cons]
    rcases List.mem_cons.mp member with rfl | inner
    · exact UInt64.le_trans (least next List.mem_cons_self) (ih later next List.mem_cons_self)
    · exact ih later number inner

section Cons

variable {poll : Poll} {rest : List Poll}

theorem numbers_cons : numbers (poll :: rest) = frameNumbers poll.frames ++ numbers rest :=
  List.flatMap_cons

theorem mem_numbers {polls : List Poll} {number : UInt64} :
    number ∈ numbers polls ↔ ∃ poll ∈ polls, number ∈ frameNumbers poll.frames :=
  List.mem_flatMap

theorem Poll.Sound.le_cursor (sound : poll.Sound) :
    ∀ number ∈ poll.base :: frameNumbers poll.frames,
      number ≤ poll.attempt.next.lastConsumed := by
  rw [sound.cursor]
  refine le_getLastD (List.pairwise_cons.mpr ⟨?_, sound.ordered⟩)
  exact fun number delivered => UInt64.le_of_lt (sound.above number delivered)

theorem Account.cons (sound : poll.Sound)
    (account : Account poll.attempt.next.lastConsumed rest) : Account poll.base (poll :: rest) := by
  have apart : ∀ a ∈ frameNumbers poll.frames, ∀ b ∈ numbers rest, a < b := by
    intro a early b late
    exact UInt64.lt_of_le_of_lt (sound.le_cursor a (List.mem_cons_of_mem _ early))
      (account.above b late)
  refine ⟨?_, ?_, ?_, ?_, ?_⟩
  · intro number delivered
    rw [numbers_cons] at delivered
    rcases List.mem_append.mp delivered with early | late
    · exact sound.above number early
    · exact UInt64.lt_of_le_of_lt (sound.le_cursor _ List.mem_cons_self)
        (account.above number late)
  · rw [numbers_cons, List.pairwise_append]
    exact ⟨sound.ordered, account.ordered, fun a early b late =>
      UInt64.le_of_lt (apart a early b late)⟩
  · refine List.pairwise_cons.mpr ⟨?_, account.apart⟩
    intro later member a early b late
    exact apart a early b (mem_numbers.mpr ⟨later, member, late⟩)
  · intro distinct
    rw [numbers_cons, List.pairwise_append]
    exact ⟨sound.increasing (distinct poll List.mem_cons_self),
      account.increasing fun later member => distinct later (List.mem_cons_of_mem poll member),
      apart⟩
  · rw [lost, sound.dropped_eq, account.lost_eq, numbers_cons, missed_append, sound.cursor]

end Cons

-- As long as no further session starts, the account goes on from where it began.
theorem account_of_linked {sync : Synchronizer} {poll : Poll} {rest : List Poll}
    (linked : Linked sync (poll :: rest))
    (within : ∀ next ∈ rest, next.startsSession = false) :
    Account poll.base (poll :: rest) ∧
      (sync.afterPolls (poll :: rest)).lastConsumed =
        (numbers (poll :: rest)).getLastD poll.base := by
  -- The next extraction of a session begins at the cursor that this one leaves.
  induction rest generalizing sync poll with
  | nil =>
    obtain ⟨-, sound, -⟩ := linked
    refine ⟨(Account.nil _).cons sound, ?_⟩
    rw [numbers_cons, getLastD_append, ← sound.cursor]
    rfl
  | cons next tail ih =>
    obtain ⟨-, sound, later⟩ := linked
    have base : next.base = poll.attempt.next.lastConsumed := by
      simp [Poll.base, within next List.mem_cons_self, later.1]
    obtain ⟨account, cursor⟩ := ih later fun other member =>
      within other (List.mem_cons_of_mem next member)
    rw [base] at account cursor
    refine ⟨account.cons sound, ?_⟩
    rw [numbers_cons, getLastD_append, ← sound.cursor]
    exact cursor

-- A run of a fresh synchronizer that no extraction starts a session in is one session.
theorem account_of_one_session {sync : Synchronizer} {polls : List Poll}
    (fresh : sync.lastConsumed = 0) (linked : Linked sync polls)
    (within : ∀ poll ∈ polls, poll.startsSession = false) :
    Account 0 polls ∧ (sync.afterPolls polls).lastConsumed = (numbers polls).getLastD 0 := by
  cases polls with
  | nil => exact ⟨Account.nil 0, fresh⟩
  | cons poll rest =>
    have base : poll.base = 0 := by
      simp [Poll.base, within poll List.mem_cons_self, linked.1, fresh]
    rw [← base]
    exact account_of_linked linked fun next member => within next (List.mem_cons_of_mem poll member)

theorem within_of_isChain {kept : Poll → Bool} {poll : Poll} {rest : List Poll}
    (chained : (poll :: rest).IsChain fun _ next => kept next = true) :
    ∀ next ∈ rest, kept next = true := by
  induction rest generalizing poll with
  | nil => exact fun _ member => absurd member List.not_mem_nil
  | cons head tail ih =>
    obtain ⟨first, later⟩ := List.isChain_cons_cons.mp chained
    intro next member
    rcases List.mem_cons.mp member with rfl | inner
    · exact first
    · exact ih later next inner

theorem session_parts {polls session : List Poll} {earlier later : List (List Poll)}
    (cut : sessions polls = earlier ++ session :: later) :
    polls = earlier.flatten ++ session ++ later.flatten ∧
      ∃ poll rest, session = poll :: rest ∧ (∀ next ∈ rest, next.startsSession = false) ∧
        (earlier.flatten = [] ∨ poll.startsSession = true) := by
  have member : session ∈ sessions polls := cut ▸ List.mem_append_right _ List.mem_cons_self
  have joined : (sessions polls).flatten = polls := List.flatten_splitBy _ polls
  obtain ⟨poll, rest, parts⟩ :=
    List.exists_cons_of_ne_nil (List.ne_nil_of_mem_splitBy member)
  refine ⟨?_, poll, rest, parts, ?_, ?_⟩
  · rw [← joined, cut]
    simp
  · have chained := List.isChain_of_mem_splitBy member
    rw [parts] at chained
    intro next inRest
    simpa using within_of_isChain chained next inRest
  -- A session before this one ends where this one starts, and the run was cut there.
  · rcases List.eq_nil_or_concat' earlier with rfl | ⟨_, last, rfl⟩
    · exact Or.inl rfl
    · have chained := List.isChain_getLast_head_splitBy
        (fun _ next : Poll => !next.startsSession) polls
      change (sessions polls).IsChain _ at chained
      rw [cut, List.append_assoc, List.singleton_append, List.isChain_append_cons_cons] at chained
      obtain ⟨-, ⟨_, _, starts⟩, -⟩ := chained
      right
      simpa [parts] using starts

theorem session_account {sync : Synchronizer} {polls session : List Poll}
    {earlier later : List (List Poll)} (fresh : sync.lastConsumed = 0)
    (linked : Linked sync polls) (cut : sessions polls = earlier ++ session :: later) :
    Account 0 session ∧
      (sync.afterPolls (earlier.flatten ++ session)).lastConsumed =
        (numbers session).getLastD 0 := by
  obtain ⟨joined, poll, rest, rfl, within, starts⟩ := session_parts cut
  rw [joined] at linked
  have linked := (Synchronizer.linked_append (Synchronizer.linked_append linked).1).2
  have base : poll.base = 0 := by
    rcases starts with first | starts
    · simp [Poll.base, linked.1, first, Synchronizer.afterPolls, fresh]
    · simp [Poll.base, starts]
  have account := account_of_linked linked within
  rw [base] at account
  rw [Synchronizer.afterPolls_append]
  exact account

theorem cursor_eq_currentSession {sync : Synchronizer} {polls : List Poll}
    (fresh : sync.lastConsumed = 0) (linked : Linked sync polls) :
    (sync.afterPolls polls).lastConsumed = (numbers (currentSession polls)).getLastD 0 := by
  rcases List.eq_nil_or_concat' (sessions polls) with none | ⟨earlier, session, cut⟩
  · have empty : polls = [] := List.splitBy_eq_nil.mp none
    rw [empty]
    exact fresh
  · have joined : polls = earlier.flatten ++ session := by
      simpa using (session_parts cut).1
    have current : currentSession polls = session := by
      simp [currentSession, cut]
    rw [current, ← (session_account fresh linked cut).2, ← joined]

-- Of numbers that strictly increase, those delivered and those missed are all from the first to
-- the last.
theorem length_add_missed {first : UInt64} {rest : List UInt64} (nonzero : first ≠ 0)
    (increasing : (first :: rest).Pairwise (· < ·)) :
    (first :: rest).length + missed first rest + first.toNat =
      (rest.getLastD first).toNat + 1 := by
  induction rest generalizing first with
  | nil => simp [missed, Nat.add_comm]
  | cons next tail ih =>
    obtain ⟨least, later⟩ := List.pairwise_cons.mp increasing
    have up : first.toNat < next.toNat := UInt64.lt_iff_toNat_lt.mp (least next List.mem_cons_self)
    have nextNonzero : next ≠ 0 := by
      rintro rfl
      exact absurd up (Nat.not_lt_zero _)
    have tailCount := ih nextNonzero later
    rw [List.getLastD_cons, missed, gap_toNat, if_neg nonzero]
    simp only [List.length_cons] at *
    omega

theorem Account.covered {polls : List Poll} (account : Account 0 polls)
    (distinct : DistinctScans polls) {first last : UInt64}
    (isFirst : (numbers polls).head? = some first) (isLast : (numbers polls).getLast? = some last) :
    (numbers polls).length + lost polls + first.toNat = last.toNat + 1 := by
  have increasing := account.increasing distinct
  have above := account.above
  rw [account.lost_eq]
  cases form : numbers polls with
  | nil => simp [form] at isFirst
  | cons head rest =>
    rw [form] at increasing isFirst isLast above
    obtain rfl : head = first := Option.some.inj isFirst
    have nonzero : head ≠ 0 := by
      rintro rfl
      exact absurd (above 0 List.mem_cons_self) (UInt64.lt_irrefl 0)
    have ending : rest.getLastD head = last := by
      rw [List.getLast?_cons] at isLast
      simpa using isLast
    have total := length_add_missed nonzero increasing
    rw [missed, gap_toNat, if_pos rfl, Nat.zero_add, ← ending]
    exact total

/-- Whatever the sources of a run answer, the numbers of a session are those of a producer that
counts upwards, the cursor is the last of them, and between distinct numbers none is unaccounted
for. -/
theorem sessions_accounted {σ : Type} (protocol : Protocol)
    (calls : List (Source (StateM σ) × ExtractMode)) (world : σ) :
    let start := Synchronizer.start protocol
    let polls := (start.polls calls world).1
    (∀ session ∈ sessions polls,
      (∀ number ∈ numbers session, number ≠ 0) ∧
      (numbers session).Pairwise (· ≤ ·) ∧
      Apart session) ∧
    (start.afterPolls polls).lastConsumed = (numbers (currentSession polls)).getLastD 0 ∧
    (∀ session ∈ sessions polls, DistinctScans session →
      (numbers session).Pairwise (· < ·) ∧
      ∀ first last, (numbers session).head? = some first →
        (numbers session).getLast? = some last →
        (numbers session).length + lost session + first.toNat = last.toNat + 1) ∧
    (∀ poll ∈ polls, poll.dropped = missed poll.base (frameNumbers poll.frames) ∧
      ∀ header, poll.scan = .ok header → ∀ (source : Source (StateM σ)) (reached : σ),
        let haul := (source.copyCandidates header (poll.before.select poll.mode header).kept
          (Haul.start (poll.before.baseline header)) reached).1.1
        haul.dropped.toNat = missed (poll.before.baseline header) (frameNumbers haul.frames)) := by
  intro start polls
  have linked : Linked start polls := start.polls_linked calls world
  have account : ∀ session ∈ sessions polls, Account 0 session := by
    intro session member
    obtain ⟨earlier, later, cut⟩ := List.append_of_mem member
    exact (session_account rfl linked cut).1
  refine ⟨?_, cursor_eq_currentSession rfl linked, ?_, ?_⟩
  · intro session member
    refine ⟨?_, (account session member).ordered, (account session member).apart⟩
    intro number delivered zero
    have above := (account session member).above number delivered
    rw [zero] at above
    exact UInt64.lt_irrefl 0 above
  · intro session member distinct
    refine ⟨(account session member).increasing distinct, ?_⟩
    intro first last isFirst isLast
    exact (account session member).covered distinct isFirst isLast
  · intro poll member
    refine ⟨(linked.sound poll member).dropped_eq, ?_⟩
    intro header _ source reached
    exact copying_dropped_exact source reached

end FrameTap
