import FrameTap.Proofs.Producer.Publishing
import FrameTap.Proofs.Synchronizer.Modes
import FrameTap.Proofs.Synchronizer.Resets
import FrameTap.Proofs.Synchronizer.Still

set_option autoImplicit false

namespace FrameTap

variable {σ : Type}

def Header.LagsBehind (header : Header) (number : UInt64) : Prop :=
  (∃ candidate, header.Declares candidate) ∧
    ∀ candidate, header.Declares candidate → candidate.frameNumber < number

theorem Header.lagsBehind_iff {header : Header} {number : UInt64} :
    header.LagsBehind number ↔ header.readyCandidates ≠ [] ∧
      ∀ candidate ∈ header.readyCandidates, candidate.frameNumber < number := by
  simp only [LagsBehind, Declares, ← mem_readyCandidates, ne_eq, List.eq_nil_iff_forall_not_mem,
    not_forall, not_not]

instance (header : Header) (number : UInt64) : Decidable (header.LagsBehind number) :=
  decidable_of_iff _ Header.lagsBehind_iff.symm

/-- A ring that counts less than before. Of a single slot nothing is asked. -/
def Synchronizer.TotalFell (sync : Synchronizer) (header : Header) : Prop :=
  ∀ h, header = .ring h → h.totalFrames < sync.lastTotal

-- What a session that begins now has to take.
def Header.Offers (header : Header) (mode : ExtractMode) (candidate : Candidate) : Prop :=
  (header.Declares candidate ∧ candidate.frameNumber ≠ 0) ∧
    (mode = .latest → ∀ other, header.Declares other → other.frameNumber ≠ 0 →
      other = candidate ∨ other.Before candidate)

section Lagging

variable {sync : Synchronizer} {mode : ExtractMode} {header : Header} {candidate : Candidate}

theorem restarted_of_lagsBehind (lags : header.LagsBehind sync.lastConsumed)
    (fell : sync.TotalFell header) : sync.Restarted header := by
  cases header with
  | single h =>
    obtain ⟨⟨candidate, declared⟩, below⟩ := lags
    have low := below candidate declared
    obtain ⟨index, state, present, ready, rfl⟩ := declared
    cases index with
    | zero =>
      cases present
      exact ⟨ready, low⟩
    | succ index => cases present
  | ring h => exact fell h rfl

theorem isNew_of_restarted (restarted : sync.Restarted header) :
    sync.IsNew header candidate ↔ header.Declares candidate ∧ candidate.frameNumber ≠ 0 := by
  rw [Synchronizer.IsNew, Synchronizer.floor, if_pos restarted, UInt64.pos_iff_ne_zero]

theorem wants_of_restarted (restarted : sync.Restarted header) :
    sync.Wants mode header candidate ↔ header.Offers mode candidate := by
  simp only [Synchronizer.Wants, Header.Offers, isNew_of_restarted restarted, and_imp]

-- Nothing that lags behind the cursor is above it.
theorem kept_of_lagsBehind (lags : header.LagsBehind sync.lastConsumed)
    (unreset : ¬sync.Restarted header) : (sync.select mode header).kept = [] := by
  refine List.eq_nil_iff_forall_not_mem.mpr fun candidate taken => ?_
  obtain ⟨declared, above⟩ := (Synchronizer.mem_kept_iff_wants.mp taken).1
  rw [Synchronizer.floor, if_neg unreset] at above
  exact UInt64.lt_irrefl _ (UInt64.lt_trans above (lags.2 candidate declared))

end Lagging

namespace Extracted

variable {sync next : Synchronizer} {source : Source (StateM σ)} {mode : ExtractMode}
  {world after : σ} {header : Header} {copies : List (Candidate × Option Bytes)}
  {extraction : Extraction}
  (extracted : Extracted sync source mode world header copies extraction next after)

include extracted

theorem stands_of_lagsBehind (lags : header.LagsBehind sync.lastConsumed)
    (unreset : ¬sync.Restarted header) :
    extraction.reset = none ∧ extraction.frames = [] ∧ next.lastConsumed = sync.lastConsumed := by
  have nothing : copies = [] := by
    have none := extracted.candidates
    rw [kept_of_lagsBehind lags unreset] at none
    exact List.map_eq_nil_iff.mp none
  have unobserved : sync.restartObserved header = none := by
    rw [sync.restartObserved_eq, if_neg unreset]
  refine ⟨?_, ?_, ?_⟩
  · rw [extracted.extraction_eq, Haul.extraction, sync.select_reset, unobserved]
    rfl
  · rw [extracted.frames_eq, nothing]
    rfl
  · rw [extracted.next_eq, nothing]
    exact Synchronizer.baseline_of_unreset unobserved

end Extracted

theorem lagging_header_extracted {sync : Synchronizer} {source : Source (StateM σ)}
    {mode : ExtractMode} {world : σ} {header : Header} {extraction : Extraction}
    (scan : (source.readHeader world).1 = .ok header)
    (succeeded : (sync.extract source mode world).1.result = .ok extraction)
    (lags : header.LagsBehind sync.lastConsumed) :
    (sync.TotalFell header →
      extraction.reset = some { lastConsumed := sync.lastConsumed, observed := header.counter } ∧
      (sync.reset.extract source mode world).1.result = .ok { extraction with reset := none } ∧
      ∃ copies checked after, Copied source checked copies after ∧
        (copies.map Prod.fst).Pairwise Candidate.Before ∧
        (∀ candidate, candidate ∈ copies.map Prod.fst ↔ header.Offers mode candidate) ∧
        extraction.frames = deliveredFrames header copies ∧
        extraction.torn = UInt64.ofNat (copies.filter (·.2.isNone)).length) ∧
    (¬sync.TotalFell header →
      extraction.reset = none ∧ extraction.frames = [] ∧
        (sync.extract source mode world).1.next.lastConsumed = sync.lastConsumed) := by
  obtain ⟨scanned, copies, read, extracted⟩ := extracted_of_ok succeeded
  obtain rfl : scanned = header := Except.ok.inj (read.symm.trans scan)
  refine ⟨fun fell => ?_, fun stood => ?_⟩
  · have restarted := restarted_of_lagsBehind lags fell
    have fresh := (extract_restarted scan extracted.protocol restarted succeeded).1
    obtain ⟨_, checked, -, -, copied⟩ := extracted.run
    refine ⟨extracted.reset_eq_some.mpr ⟨restarted, rfl⟩, fresh, copies, checked, _, copied, ?_, ?_,
      extracted.frames_eq, extracted.torn_eq⟩
    · rw [extracted.candidates]
      exact sync.kept_before mode scanned
    · intro candidate
      rw [extracted.candidates, Synchronizer.mem_kept_iff_wants, wants_of_restarted restarted]
  · refine extracted.stands_of_lagsBehind lags fun restarted => stood ?_
    rintro h rfl
    exact restarted

def ninth : Board := (smallRing.setSlot 0 ⟨1, 30, 9⟩).setTally ⟨9, 30, 1, 0⟩

-- Numbered anew, and already at its second frame.
def renumbered (total : UInt64) : Board :=
  (smallRing.setSlot 1 ⟨1, 40, 2⟩).setTally ⟨total, 40, 2, 0⟩

def afterNinth : Synchronizer :=
  let source : Source (StateM Unit) := .ofBytes ninth.bytes
  ((Synchronizer.start .ring).extract source .allNew ()).1.next

-- A total that went on counting hides that the numbers began again.
theorem renumbered_ring_ignored :
    let source : Source (StateM Unit) := .ofBytes (renumbered 10).bytes
    let attempt := (afterNinth.extract source .allNew ()).1
    (source.readHeader ()).1 = .ok (renumbered 10).header ∧
      (renumbered 10).header.LagsBehind afterNinth.lastConsumed ∧
      (∃ candidate, (renumbered 10).header.Declares candidate ∧ candidate.frameNumber = 2) ∧
      attempt.result = .ok { frames := [], dropped := 0, torn := 0, reset := none } ∧
      attempt.next.lastConsumed = 9 := by
  refine ⟨by decide +kernel, by decide +kernel, ?_, by decide +kernel, by decide +kernel⟩
  exact ⟨_, ⟨1, ⟨1, 40, 2⟩, rfl, by decide, rfl⟩, rfl⟩

theorem lagging_header_extracted_fromTwo :
    let source : Source (StateM Unit) := .ofBytes (renumbered 2).bytes
    let extraction : Extraction :=
      { frames := [{ ringFrame 2 40 1 with data := List.replicate 4 0 }], dropped := 0, torn := 0
        reset := some { lastConsumed := 9, observed := 2 } }
    (source.readHeader ()).1 = .ok (renumbered 2).header ∧
      (afterNinth.extract source .allNew ()).1.result = .ok extraction ∧
      (renumbered 2).header.LagsBehind afterNinth.lastConsumed ∧
      (afterNinth.reset.extract source .allNew ()).1.result =
        .ok { extraction with reset := none } := by
  intro source extraction
  have scan : (source.readHeader ()).1 = .ok (renumbered 2).header := by decide +kernel
  have succeeded : (afterNinth.extract source .allNew ()).1.result = .ok extraction := by
    decide +kernel
  have lags : (renumbered 2).header.LagsBehind afterNinth.lastConsumed := by decide +kernel
  have fell : afterNinth.TotalFell (renumbered 2).header := by
    rintro h ⟨⟩
    decide +kernel
  exact ⟨scan, succeeded, lags, ((lagging_header_extracted scan succeeded lags).1 fell).2.1⟩

end FrameTap
