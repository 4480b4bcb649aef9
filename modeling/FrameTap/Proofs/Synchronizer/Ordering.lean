import FrameTap.Proofs.Header.Slots
import Mathlib.Data.List.Sort

set_option autoImplicit false

namespace FrameTap

namespace Candidate

def Before (earlier later : Candidate) : Prop :=
  earlier.frameNumber < later.frameNumber ∨
    earlier.frameNumber = later.frameNumber ∧ earlier.index < later.index

theorem Before.trans {first second third : Candidate} (early : first.Before second)
    (late : second.Before third) : first.Before third := by
  simp only [Before, UInt64.lt_iff_toNat_lt, ← UInt64.toNat_inj] at *
  omega

theorem Before.irrefl (candidate : Candidate) : ¬candidate.Before candidate := by
  simp only [Before, UInt64.lt_iff_toNat_lt]
  omega

theorem Before.number_le {earlier later : Candidate} (before : earlier.Before later) :
    earlier.frameNumber ≤ later.frameNumber := by
  simp only [Before, UInt64.lt_iff_toNat_lt, UInt64.le_iff_toNat_le, ← UInt64.toNat_inj] at *
  omega

theorem insertByNumber_eq (candidate : Candidate) (candidates : List Candidate) :
    candidate.insertByNumber candidates =
      candidates.orderedInsert (fun a b => a.frameNumber ≤ b.frameNumber) candidate := by
  induction candidates with
  | nil => rfl
  | cons next rest ih => rw [insertByNumber, List.orderedInsert_cons, ih]

theorem sortByNumber_eq (candidates : List Candidate) :
    sortByNumber candidates =
      candidates.insertionSort (fun a b => a.frameNumber ≤ b.frameNumber) := by
  induction candidates with
  | nil => rfl
  | cons next rest ih =>
    rw [List.insertionSort_cons, ← ih, ← insertByNumber_eq]
    rfl

theorem sortByNumber_perm (candidates : List Candidate) :
    (sortByNumber candidates).Perm candidates := by
  rw [sortByNumber_eq]
  exact List.perm_insertionSort _ _

-- The list that is inserted into holds only higher slots, so a tie goes to the new candidate.
theorem insertByNumber_before {candidate : Candidate} {candidates : List Candidate}
    (sorted : candidates.Pairwise Before)
    (lower : ∀ other ∈ candidates, candidate.index < other.index) :
    (candidate.insertByNumber candidates).Pairwise Before := by
  induction candidates with
  | nil => exact List.pairwise_singleton _ _
  | cons next rest ih =>
    obtain ⟨nextBefore, restSorted⟩ := List.pairwise_cons.mp sorted
    rw [insertByNumber]
    by_cases small : candidate.frameNumber ≤ next.frameNumber
    -- Of two equal numbers the inserted one comes first, and its slot is the lower one.
    · have beforeNext : candidate.Before next := by
        have slots := lower next List.mem_cons_self
        simp only [Before, UInt64.lt_iff_toNat_lt, UInt64.le_iff_toNat_le, ← UInt64.toNat_inj] at *
        omega
      rw [if_pos small]
      refine List.pairwise_cons.mpr ⟨?_, sorted⟩
      intro other member
      rcases List.mem_cons.mp member with rfl | later
      · exact beforeNext
      · exact beforeNext.trans (nextBefore other later)
    · rw [if_neg small]
      refine List.pairwise_cons.mpr ⟨?_, ih restSorted fun other member =>
        lower other (List.mem_cons_of_mem next member)⟩
      intro other member
      rw [insertByNumber_eq, List.mem_orderedInsert] at member
      rcases member with rfl | later
      · exact Or.inl (UInt64.not_le.mp small)
      · exact nextBefore other later

theorem sortByNumber_before {candidates : List Candidate}
    (slotOrder : candidates.Pairwise fun earlier later => earlier.index < later.index) :
    (sortByNumber candidates).Pairwise Before := by
  induction candidates with
  | nil => exact List.Pairwise.nil
  | cons next rest ih =>
    obtain ⟨lower, restOrder⟩ := List.pairwise_cons.mp slotOrder
    refine insertByNumber_before (ih restOrder) ?_
    intro other member
    exact lower other ((sortByNumber_perm rest).mem_iff.mp member)

end Candidate

def Header.counter : Header → UInt64
  | .single h => h.frameNumber
  | .ring h => h.totalFrames

namespace Synchronizer

variable (sync : Synchronizer) (mode : ExtractMode) (header : Header)

def Restarted : Header → Prop
  | .single h => h.ready ≠ 0 ∧ h.frameNumber < sync.lastConsumed
  | .ring h => h.totalFrames < sync.lastTotal

instance : Decidable (sync.Restarted header) :=
  match header with
  | .single _ => inferInstanceAs (Decidable (_ ∧ _))
  | .ring _ => inferInstanceAs (Decidable (_ < _))

theorem restartObserved_eq :
    sync.restartObserved header = if sync.Restarted header then some header.counter else none := by
  cases header <;> rfl

def baseline : UInt64 :=
  if (sync.restartObserved header).isSome then 0 else sync.lastConsumed

@[simp] theorem select_reset :
    (sync.select mode header).reset =
      (sync.restartObserved header).map fun observed =>
        { lastConsumed := sync.lastConsumed, observed } :=
  rfl

theorem mem_kept_allNew {candidate : Candidate} :
    candidate ∈ (sync.select .allNew header).kept ↔
      candidate ∈ header.readyCandidates ∧ sync.baseline header < candidate.frameNumber := by
  change candidate ∈ Candidate.sortByNumber _ ↔ _
  rw [(Candidate.sortByNumber_perm _).mem_iff, List.mem_filter, decide_eq_true_eq]
  rfl

theorem kept_latest :
    (sync.select .latest header).kept =
      (sync.select .allNew header).kept.drop ((sync.select .allNew header).kept.length - 1) :=
  rfl

theorem kept_sublist :
    (sync.select mode header).kept.Sublist (sync.select .allNew header).kept := by
  cases mode with
  | latest => exact List.drop_sublist _ _
  | allNew => exact List.Sublist.refl _

theorem length_kept_le : (sync.select mode header).kept.length ≤ Slots.count := by
  have few : header.protocol.slotCount ≤ Slots.count := by
    cases header.protocol <;> decide
  have ready : header.readyCandidates.length ≤ header.protocol.slotCount := by
    rw [Header.readyCandidates_eq]
    exact (List.length_filterMap_le _ _).trans_eq List.length_range
  calc (sync.select mode header).kept.length
    _ ≤ (sync.select .allNew header).kept.length := (sync.kept_sublist mode header).length_le
    _ = (header.readyCandidates.filter (sync.baseline header < ·.frameNumber)).length :=
      (Candidate.sortByNumber_perm _).length_eq
    _ ≤ header.readyCandidates.length := List.length_filter_le _ _
    _ ≤ Slots.count := ready.trans few

theorem kept_before : (sync.select mode header).kept.Pairwise Candidate.Before := by
  refine List.Pairwise.sublist (sync.kept_sublist mode header) ?_
  refine Candidate.sortByNumber_before ?_
  exact header.readyCandidates_slot_order.sublist List.filter_sublist

variable {sync mode header} {candidate : Candidate}

theorem ready_of_kept (taken : candidate ∈ (sync.select mode header).kept) :
    candidate ∈ header.readyCandidates :=
  ((sync.mem_kept_allNew header).mp ((sync.kept_sublist mode header).subset taken)).1

theorem baseline_lt_of_kept (taken : candidate ∈ (sync.select mode header).kept) :
    sync.baseline header < candidate.frameNumber :=
  ((sync.mem_kept_allNew header).mp ((sync.kept_sublist mode header).subset taken)).2

theorem kept_increasing (distinct : (header.readyCandidates.map (·.frameNumber)).Nodup) :
    (sync.select mode header).kept.Pairwise fun earlier later =>
      earlier.frameNumber < later.frameNumber := by
  refine (sync.kept_before mode header).imp_of_mem ?_
  intro earlier later earlierTaken laterTaken before
  rcases before with lower | ⟨equal, slots⟩
  · exact lower
  · have same : earlier = later :=
      List.inj_on_of_nodup_map distinct (ready_of_kept earlierTaken) (ready_of_kept laterTaken)
        equal
    rw [same] at slots
    exact absurd slots (Nat.lt_irrefl _)

-- The latest mode takes the candidate that all others come before.
theorem mem_kept_latest :
    candidate ∈ (sync.select .latest header).kept ↔
      candidate ∈ (sync.select .allNew header).kept ∧
        ∀ other ∈ (sync.select .allNew header).kept,
          other = candidate ∨ other.Before candidate := by
  rw [kept_latest]
  have sorted := sync.kept_before .allNew header
  generalize (sync.select .allNew header).kept = fresh at sorted
  rcases List.eq_nil_or_concat' fresh with rfl | ⟨front, last, rfl⟩
  · simp
  · have only : (front ++ [last]).drop ((front ++ [last]).length - 1) = [last] := by simp
    have afterFront : ∀ other ∈ front, other.Before last := by
      intro other member
      exact (List.pairwise_append.mp sorted).2.2 other member last List.mem_cons_self
    rw [only, List.mem_singleton]
    constructor
    · rintro rfl
      refine ⟨by simp, ?_⟩
      intro other member
      rcases List.mem_append.mp member with earlier | equal
      · exact Or.inr (afterFront other earlier)
      · exact Or.inl (List.mem_singleton.mp equal)
    · rintro ⟨member, highest⟩
      rcases List.mem_append.mp member with earlier | equal
      · rcases highest last (by simp) with same | before
        · exact same.symm
        · exact absurd (before.trans (afterFront candidate earlier)) (Candidate.Before.irrefl _)
      · exact List.mem_singleton.mp equal

end Synchronizer

end FrameTap
