import FrameTap.Proofs.Synchronizer.Sessions
import Mathlib.Algebra.GroupWithZero.Nat

set_option autoImplicit false

namespace FrameTap

-- How many numbers there are from the first to the last.
def span : List UInt64 → Nat
  | [] => 0
  | first :: rest => (rest.getLastD first).toNat - first.toNat + 1

-- The extractions before the first reset, and those from each reset to the next.
def parts : List Poll → List Poll × List (List Poll)
  | [] => ([], [])
  | poll :: rest =>
    let (first, others) := parts rest
    if poll.startsSession then ([], (poll :: first) :: others) else (poll :: first, others)

theorem parts_flatten (polls : List Poll) :
    ((parts polls).1 :: (parts polls).2).flatten = polls := by
  induction polls with
  | nil => rfl
  | cons poll rest ih =>
    rw [parts]
    cases starts : poll.startsSession <;> simpa using ih

theorem account_of_parts {sync : Synchronizer} {polls : List Poll} (linked : Linked sync polls) :
    Account sync.lastConsumed (parts polls).1 ∧ ∀ part ∈ (parts polls).2, Account 0 part := by
  -- What is extracted goes on the account of the part that it belongs to.
  induction polls generalizing sync with
  | nil => exact ⟨Account.nil _, nofun⟩
  | cons poll rest ih =>
    obtain ⟨before, sound, later⟩ := linked
    obtain ⟨first, others⟩ := ih later
    have account := first.cons sound
    rw [parts]
    cases starts : poll.startsSession with
    | true =>
      have base : poll.base = 0 := by simp [Poll.base, starts]
      rw [base] at account
      exact ⟨Account.nil _, List.forall_mem_cons.mpr ⟨account, others⟩⟩
    | false =>
      have base : poll.base = sync.lastConsumed := by simp [Poll.base, starts, before]
      rw [base] at account
      exact ⟨account, others⟩

theorem Account.span_eq {polls : List Poll} (account : Account 0 polls)
    (distinct : DistinctScans polls) :
    (numbers polls).length + lost polls = span (numbers polls) := by
  cases form : numbers polls with
  | nil => rw [account.lost_eq, form, missed, span, List.length_nil]
  | cons first rest =>
    have isFirst : (numbers polls).head? = some first := by simp [form]
    have isLast : (numbers polls).getLast? = some (rest.getLastD first) := by
      simp [form, List.getLast?_cons, List.getLastD_eq_getLast?]
    have covered := account.covered distinct isFirst isLast
    rw [form, List.length_cons] at covered
    rw [span, List.length_cons]
    omega

theorem numbers_append (front back : List Poll) :
    numbers (front ++ back) = numbers front ++ numbers back :=
  List.flatMap_append

theorem lost_append (front back : List Poll) : lost (front ++ back) = lost front + lost back := by
  induction front with
  | nil => exact (Nat.zero_add _).symm
  | cons poll rest ih => rw [List.cons_append, lost, ih, lost, Nat.add_assoc]

theorem spans_of_accounts {parts : List (List Poll)} (accounts : ∀ part ∈ parts, Account 0 part)
    (distinct : DistinctScans parts.flatten) :
    (numbers parts.flatten).length + lost parts.flatten =
      (parts.map fun part => span (numbers part)).sum := by
  induction parts with
  | nil => rfl
  | cons part rest ih =>
    obtain ⟨first, others⟩ := List.forall_mem_cons.mp accounts
    have here := first.span_eq fun poll member =>
      distinct poll (List.mem_append_left _ member)
    have there := ih others fun poll member => distinct poll (List.mem_append_right _ member)
    rw [List.flatten_cons, numbers_append, lost_append, List.length_append, List.map_cons,
      List.sum_cons, ← here, ← there]
    omega

/-- Between resets numbers go up, and the frames that a fresh synchronizer delivered and those it
counted as dropped fill the spans between the first and the last. -/
theorem parts_of_fresh {sync : Synchronizer} {polls : List Poll} (fresh : sync.lastConsumed = 0)
    (linked : Linked sync polls) (distinct : DistinctScans polls) :
    (∀ part ∈ (parts polls).1 :: (parts polls).2, (numbers part).Pairwise (· < ·)) ∧
      (numbers polls).length + lost polls =
        (((parts polls).1 :: (parts polls).2).map fun part => span (numbers part)).sum := by
  obtain ⟨first, others⟩ := account_of_parts linked
  rw [fresh] at first
  have accounts := List.forall_mem_cons.mpr ⟨first, others⟩
  have whole := parts_flatten polls
  constructor
  · intro part member
    refine (accounts part member).increasing fun poll inPart => distinct poll ?_
    rw [← whole]
    exact List.mem_flatten.mpr ⟨part, member, inPart⟩
  · have total := spans_of_accounts accounts (whole.symm ▸ distinct)
    rwa [whole] at total

namespace Poll

def extraction? (poll : Poll) : Option Extraction :=
  match poll.attempt.result with
  | .ok extraction => some extraction
  | .error _ => none

def reset? (poll : Poll) : Option SessionReset := poll.extraction?.bind (·.reset)

theorem startsSession_eq (poll : Poll) : poll.startsSession = poll.reset?.isSome := by
  unfold startsSession reset? extraction?
  cases poll.attempt.result <;> rfl

end Poll

def extractions (polls : List Poll) : List Extraction := polls.filterMap (·.extraction?)

theorem frames_of_extractions (polls : List Poll) :
    polls.flatMap (·.frames) = (extractions polls).flatMap (·.frames) := by
  induction polls with
  | nil => rfl
  | cons poll rest ih =>
    cases result : poll.attempt.result <;>
      simpa [extractions, Poll.extraction?, Poll.frames, result] using ih

theorem lost_of_extractions (polls : List Poll) :
    lost polls = ((extractions polls).map fun extraction => extraction.dropped.toNat).sum := by
  induction polls with
  | nil => rfl
  | cons poll rest ih =>
    cases result : poll.attempt.result <;>
      simpa [lost, extractions, Poll.extraction?, Poll.dropped, result] using ih

theorem length_numbers (polls : List Poll) :
    (numbers polls).length = (polls.flatMap (·.frames)).length := by
  simp [numbers, frameNumbers, List.length_flatMap]

theorem extractions_append (front back : List Poll) :
    extractions (front ++ back) = extractions front ++ extractions back :=
  List.filterMap_append

theorem Synchronizer.poll_latest_length {σ : Type} (sync : Synchronizer)
    (source : Source (StateM σ)) (world : σ) :
    (sync.poll source .latest world).1.frames.length ≤ 1 := by
  rcases run : sync.extract source .latest world with ⟨attempt, after⟩
  rw [poll, run]
  rcases extract_cases sync source .latest world run with ⟨error, failed, -⟩ |
    ⟨header, copies, extraction, succeeded, extracted⟩
  · simp [Poll.frames, failed]
  · have few : (sync.select .latest header).kept.length ≤ 1 := by
      rw [kept_latest, List.length_drop]
      omega
    have taken := (numbers_sublist_of_kept extracted.kept_prefix).length_le
    rw [frameNumbers, List.length_map, List.length_map] at taken
    simpa [Poll.frames, succeeded, extracted.frames_eq] using taken.trans few

end FrameTap
