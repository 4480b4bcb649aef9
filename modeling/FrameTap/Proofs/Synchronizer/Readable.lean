import FrameTap.Proofs.Header.Records
import FrameTap.Proofs.Synchronizer.Ordering

set_option autoImplicit false

namespace FrameTap

variable {σ : Type}

/-- A candidate whose copy and whose check succeed in every world of `stays`, which no use of the
source leaves. -/
structure Readable (source : Source (StateM σ)) (stays : σ → Prop) (candidate : Candidate) :
    Prop where
  inside : ∀ world, stays world → ∃ size after, source.length world = (size, after) ∧
    candidate.offset + candidate.length ≤ size ∧ stays after
  copied : ∀ world, stays world → ∃ data after,
    source.copyOut candidate.offset candidate.length world = (.ok data, after) ∧ stays after
  checked : ∀ world, stays world → ∃ verdict after,
    source.stillCurrent candidate world = (.ok verdict, after) ∧ stays after

section Readable

variable {source : Source (StateM σ)} {stays : σ → Prop} {candidates : List Candidate}
  (readable : ∀ candidate ∈ candidates, Readable source stays candidate)

include readable

theorem checkBounds_readable {world : σ} (here : stays world) :
    ∃ after, source.checkBounds candidates world = (.ok (), after) ∧ stays after := by
  induction candidates generalizing world with
  | nil => exact ⟨world, rfl, here⟩
  | cons candidate rest ih =>
    obtain ⟨first, others⟩ := List.forall_mem_cons.mp readable
    obtain ⟨size, measured, length, inside, next⟩ := first.inside world here
    rw [Source.checkBounds, StateM.bind_of_eq length, if_pos inside]
    exact ih others next

theorem copyCandidates_readable (header : Header) (haul : Haul) {world : σ} (here : stays world) :
    ∃ finished after, source.copyCandidates header candidates haul world =
      ((finished, none), after) ∧ stays after := by
  induction candidates generalizing haul world with
  | nil => exact ⟨haul, world, rfl, here⟩
  | cons candidate rest ih =>
    obtain ⟨first, others⟩ := List.forall_mem_cons.mp readable
    obtain ⟨data, copied, copy, afterCopy⟩ := first.copied world here
    obtain ⟨verdict, checked, check, afterCheck⟩ := first.checked copied afterCopy
    rw [Source.copyCandidates, StateM.bind_of_eq copy]
    dsimp only
    rw [StateM.bind_of_eq check]
    cases verdict
    · exact ih others (haul.discard candidate) afterCheck
    · exact ih others (haul.deliver header candidate data) afterCheck

end Readable

theorem extract_readable {source : Source (StateM σ)} {stays : σ → Prop} {sync : Synchronizer}
    {mode : ExtractMode} {world scanned : σ} {header : Header}
    (scan : source.readHeader world = (.ok header, scanned))
    (same : header.protocol = sync.protocol) (here : stays scanned)
    (readable : ∀ candidate ∈ (sync.select mode header).kept, Readable source stays candidate) :
    ∃ attempt after extraction, sync.extract source mode world = (attempt, after) ∧
      attempt.result = .ok extraction ∧ stays after := by
  obtain ⟨checked, bounds, here⟩ := checkBounds_readable readable here
  obtain ⟨haul, after, copying, here⟩ := copyCandidates_readable readable header
    (Haul.start (sync.select mode header).baseline) here
  rw [Synchronizer.extract, StateM.bind_of_eq scan]
  simp only [Synchronizer.checkProtocol, if_pos same]
  rw [StateM.bind_of_eq bounds]
  dsimp only
  rw [StateM.bind_of_eq copying]
  exact ⟨_, after, _, rfl, rfl, here⟩

end FrameTap
