import FrameTap.Proofs.Header.Fields
import FrameTap.Proofs.Synchronizer.Copying

set_option autoImplicit false

namespace FrameTap

def Candidate.payload (candidate : Candidate) (bytes : Bytes) : Bytes :=
  bytes.slice candidate.offset candidate.length

def Candidate.Fits (candidate : Candidate) (bytes : Bytes) : Prop :=
  candidate.offset + candidate.length ≤ bytes.length

instance (candidate : Candidate) (bytes : Bytes) : Decidable (candidate.Fits bytes) :=
  inferInstanceAs (Decidable (_ ≤ _))

def payloadCopies (candidates : List Candidate) (bytes : Bytes) :
    List (Candidate × Option Bytes) :=
  candidates.map fun candidate => (candidate, some (candidate.payload bytes))

section Source

variable {m : Type → Type} [Monad m] [LawfulMonad m]

omit [LawfulMonad m] in
theorem copyOut_ofBytes_of_inside {bytes : Bytes} {offset length : Nat}
    (inside : offset + length ≤ bytes.length) :
    (Source.ofBytes bytes : Source m).copyOut offset length =
      pure (.ok (bytes.slice offset length)) := by
  simp [Source.ofBytes, inside]

theorem front_inside (size : Nat) :
    0 + min size Protocol.ring.headerLength ≤ size ∧
      0 + min size Protocol.ring.headerLength < addressSpace := by
  have few : Protocol.ring.headerLength < addressSpace := by decide
  omega

theorem readHeader_of_front {source : Source m} {bytes : Bytes}
    (sized : source.length = pure bytes.length)
    (copied : source.copyOut 0 (min bytes.length Protocol.ring.headerLength) =
      pure (.ok (bytes.slice 0 (min bytes.length Protocol.ring.headerLength)))) :
    source.readHeader = pure ((Header.decode bytes).mapError .protocolMismatch) := by
  simp only [Source.readHeader, sized, copied, pure_bind, Header.decode_front]

theorem readHeader_ofBytes (bytes : Bytes) :
    (Source.ofBytes bytes : Source m).readHeader =
      pure ((Header.decode bytes).mapError .protocolMismatch) :=
  readHeader_of_front rfl (copyOut_ofBytes_of_inside (front_inside bytes.length).1)

theorem checkBounds_ofBytes_of_fits {bytes : Bytes} {candidates : List Candidate}
    (fits : ∀ candidate ∈ candidates, candidate.Fits bytes) :
    (Source.ofBytes bytes : Source m).checkBounds candidates = pure (.ok ()) := by
  induction candidates with
  | nil => rfl
  | cons candidate rest ih =>
    have first : candidate.offset + candidate.length ≤ bytes.length :=
      fits candidate List.mem_cons_self
    have others := ih fun other member => fits other (List.mem_cons_of_mem candidate member)
    rw [Source.checkBounds]
    simpa only [Source.ofBytes, pure_bind, if_pos first] using others

theorem checkBounds_ofBytes_of_beyond {bytes : Bytes} {candidates : List Candidate}
    {beyond : Candidate} (member : beyond ∈ candidates) (outside : ¬beyond.Fits bytes) :
    ∃ candidate ∈ candidates, ¬candidate.Fits bytes ∧
      (Source.ofBytes bytes : Source m).checkBounds candidates =
        pure (.error (.readFailure (.frameOutside candidate.frameNumber candidate.length
          candidate.offset bytes.length))) := by
  induction candidates with
  | nil => exact absurd member List.not_mem_nil
  | cons candidate rest ih =>
    by_cases first : candidate.offset + candidate.length ≤ bytes.length
    -- The candidate that is refused may come before the one known not to fit.
    · have inRest : beyond ∈ rest := by
        rcases List.mem_cons.mp member with rfl | inRest
        · exact absurd first outside
        · exact inRest
      obtain ⟨found, inside, unfit, refused⟩ := ih inRest
      refine ⟨found, List.mem_cons_of_mem candidate inside, unfit, ?_⟩
      rw [Source.checkBounds]
      simpa only [Source.ofBytes, pure_bind, if_pos first] using refused
    · refine ⟨candidate, List.mem_cons_self, first, ?_⟩
      rw [Source.checkBounds]
      simp only [Source.ofBytes, pure_bind, if_neg first]

theorem fits_or_refused (bytes : Bytes) (candidates : List Candidate) :
    (∀ candidate ∈ candidates, candidate.Fits bytes) ∨
      ∃ candidate ∈ candidates, ¬candidate.Fits bytes ∧
        (Source.ofBytes bytes : Source m).checkBounds candidates =
          pure (.error (.readFailure (.frameOutside candidate.frameNumber candidate.length
            candidate.offset bytes.length))) := by
  by_cases fits : ∀ candidate ∈ candidates, candidate.Fits bytes
  · exact Or.inl fits
  · obtain ⟨beyond, member, outside⟩ : ∃ beyond ∈ candidates, ¬beyond.Fits bytes := by
      simpa using fits
    exact Or.inr (checkBounds_ofBytes_of_beyond member outside)

theorem stillCurrent_ofBytes {bytes : Bytes} {header : Header} {candidate : Candidate}
    (decoded : Header.decode bytes = .ok header) (ready : candidate ∈ header.readyCandidates) :
    (Source.ofBytes bytes : Source m).stillCurrent candidate = pure (.ok true) := by
  simp only [Source.stillCurrent, readHeader_ofBytes, decoded, Except.mapError, pure_bind,
    Header.currentNumber_of_ready ready, decide_true]

theorem copyCandidates_ofBytes {bytes : Bytes} {header : Header} {candidates : List Candidate}
    (decoded : Header.decode bytes = .ok header)
    (ready : ∀ candidate ∈ candidates, candidate ∈ header.readyCandidates)
    (fits : ∀ candidate ∈ candidates, candidate.Fits bytes) (haul : Haul) :
    (Source.ofBytes bytes : Source m).copyCandidates header candidates haul =
      pure (haul.settle header (payloadCopies candidates bytes), none) := by
  induction candidates generalizing haul with
  | nil => rfl
  | cons candidate rest ih =>
    have first : candidate.offset + candidate.length ≤ bytes.length :=
      fits candidate List.mem_cons_self
    have copy : (Source.ofBytes bytes : Source m).copyOut candidate.offset candidate.length =
        pure (.ok (candidate.payload bytes)) :=
      copyOut_ofBytes_of_inside first
    have others := ih (fun other member => ready other (List.mem_cons_of_mem candidate member))
      (fun other member => fits other (List.mem_cons_of_mem candidate member))
      (haul.deliver header candidate (candidate.payload bytes))
    rw [Source.copyCandidates, copy, pure_bind]
    dsimp only
    rw [stillCurrent_ofBytes decoded (ready candidate List.mem_cons_self), pure_bind]
    exact others

variable {sync : Synchronizer} {bytes : Bytes} {mode : ExtractMode} {header : Header}

variable (sync mode) in
theorem extract_ofBytes_undecodable {mismatch : Mismatch}
    (refused : Header.decode bytes = .error mismatch) :
    sync.extract (Source.ofBytes bytes : Source m) mode =
      pure (sync.failedAttempt [] (.protocolMismatch mismatch)) := by
  simp only [Synchronizer.extract, readHeader_ofBytes, refused, Except.mapError, pure_bind]

variable (mode) in
theorem extract_ofBytes_changed (decoded : Header.decode bytes = .ok header)
    (changed : header.protocol ≠ sync.protocol) :
    sync.extract (Source.ofBytes bytes : Source m) mode =
      pure (sync.failedAttempt []
        (.protocolMismatch (.versionChanged sync.protocol.version header.version))) := by
  simp only [Synchronizer.extract, readHeader_ofBytes, decoded, Except.mapError, pure_bind,
    Synchronizer.checkProtocol, if_neg changed]

theorem extract_ofBytes_beyond (decoded : Header.decode bytes = .ok header)
    (same : header.protocol = sync.protocol) {beyond : Candidate}
    (member : beyond ∈ (sync.select mode header).kept) (outside : ¬beyond.Fits bytes) :
    ∃ candidate ∈ (sync.select mode header).kept, ¬candidate.Fits bytes ∧
      sync.extract (Source.ofBytes bytes : Source m) mode =
        pure (sync.failedAttempt (sync.selectionNotices (sync.select mode header))
          (.readFailure (.frameOutside candidate.frameNumber candidate.length candidate.offset
            bytes.length))) := by
  obtain ⟨candidate, kept, unfit, bounds⟩ := checkBounds_ofBytes_of_beyond (m := m) member outside
  refine ⟨candidate, kept, unfit, ?_⟩
  simp only [Synchronizer.extract, readHeader_ofBytes, decoded, Except.mapError, pure_bind,
    Synchronizer.checkProtocol, if_pos same, bounds]

theorem extract_ofBytes_taken (decoded : Header.decode bytes = .ok header)
    (same : header.protocol = sync.protocol)
    (fits : ∀ candidate ∈ (sync.select mode header).kept, candidate.Fits bytes) :
    let selection := sync.select mode header
    let haul := (Haul.start selection.baseline).settle header
      (payloadCopies selection.kept bytes)
    sync.extract (Source.ofBytes bytes : Source m) mode =
      pure
        { result := .ok (haul.extraction selection.reset)
          next := { sync with lastConsumed := haul.previous, lastTotal := selection.lastTotal }
          notices :=
            sync.selectionNotices selection ++ haul.overwritten.map Notice.overwritten } := by
  have copying := copyCandidates_ofBytes (m := m) decoded
    (fun candidate taken => Synchronizer.ready_of_kept taken) fits
    (Haul.start (sync.select mode header).baseline)
  simp only [Synchronizer.extract, readHeader_ofBytes, decoded, Except.mapError, pure_bind,
    Synchronizer.checkProtocol, if_pos same, checkBounds_ofBytes_of_fits fits, copying]

end Source

def Header.Declares (header : Header) (candidate : Candidate) : Prop :=
  ∃ index state, header.slot? index = some state ∧ state.ready ≠ 0 ∧
    header.candidateAt index state = candidate

namespace Synchronizer

variable (sync : Synchronizer) (mode : ExtractMode) (header : Header) (candidate : Candidate)

def floor : UInt64 := if sync.Restarted header then 0 else sync.lastConsumed

def IsNew : Prop := header.Declares candidate ∧ sync.floor header < candidate.frameNumber

def Wants : Prop :=
  sync.IsNew header candidate ∧
    (mode = .latest → ∀ other, sync.IsNew header other → other = candidate ∨ other.Before candidate)

theorem floor_eq_baseline : sync.floor header = sync.baseline header := by
  rw [floor, baseline, restartObserved_eq]
  split <;> rfl

variable {sync mode header candidate}

theorem mem_kept_allNew_iff_isNew :
    candidate ∈ (sync.select .allNew header).kept ↔ sync.IsNew header candidate := by
  rw [mem_kept_allNew, Header.mem_readyCandidates, IsNew, floor_eq_baseline]
  rfl

theorem mem_kept_iff_wants :
    candidate ∈ (sync.select mode header).kept ↔ sync.Wants mode header candidate := by
  cases mode with
  | allNew => simp [mem_kept_allNew_iff_isNew, Wants]
  | latest => simp [mem_kept_latest, mem_kept_allNew_iff_isNew, Wants]

structure Takes (sync : Synchronizer) (mode : ExtractMode) (header : Header)
    (taken : List Candidate) : Prop where
  wanted : ∀ candidate, candidate ∈ taken ↔ sync.Wants mode header candidate
  ordered : taken.Pairwise Candidate.Before

theorem takes_kept (sync : Synchronizer) (mode : ExtractMode) (header : Header) :
    sync.Takes mode header (sync.select mode header).kept where
  wanted _ := mem_kept_iff_wants
  ordered := sync.kept_before mode header

end Synchronizer

section Payloads

variable (header : Header) (candidates : List Candidate) (bytes : Bytes) (base : UInt64)

theorem deliveredFrames_payloads :
    deliveredFrames header (payloadCopies candidates bytes) =
      candidates.map fun candidate => candidate.frame header (candidate.payload bytes) := by
  simp [deliveredFrames, payloadCopies, List.filterMap_map]

theorem settle_payloads_frames :
    ((Haul.start base).settle header (payloadCopies candidates bytes)).frames =
      candidates.map fun candidate => candidate.frame header (candidate.payload bytes) := by
  rw [Haul.settle_frames, deliveredFrames_payloads]
  exact List.nil_append _

theorem settle_payloads_previous :
    ((Haul.start base).settle header (payloadCopies candidates bytes)).previous =
      (candidates.map (·.frameNumber)).getLastD base := by
  rw [Haul.settle_previous, deliveredFrames_payloads, frameNumbers, List.map_map]
  rfl

theorem settle_payloads_overwritten :
    ((Haul.start base).settle header (payloadCopies candidates bytes)).overwritten = [] := by
  have none : (payloadCopies candidates bytes).filter (·.2.isNone) = [] := by
    simp [payloadCopies, List.filter_eq_nil_iff]
  rw [Haul.settle_overwritten, none]
  rfl

end Payloads

-- Of candidates in order the last carries the highest number.
theorem highest_of_before (base : UInt64) {candidates : List Candidate}
    (sorted : candidates.Pairwise Candidate.Before) :
    (∀ candidate ∈ candidates,
      candidate.frameNumber ≤ (candidates.map (·.frameNumber)).getLastD base) ∧
    ((candidates.map (·.frameNumber)).getLastD base ∈ candidates.map (·.frameNumber) ∨
      candidates = [] ∧ (candidates.map (·.frameNumber)).getLastD base = base) := by
  rcases List.eq_nil_or_concat' candidates with rfl | ⟨front, last, rfl⟩
  · exact ⟨fun _ member => absurd member List.not_mem_nil, Or.inr ⟨rfl, rfl⟩⟩
  · have highest : ((front ++ [last]).map (·.frameNumber)).getLastD base = last.frameNumber := by
      simp
    rw [highest]
    refine ⟨?_, Or.inl (by simp)⟩
    intro candidate member
    rcases List.mem_append.mp member with earlier | equal
    · have before := (List.pairwise_append.mp sorted).2.2 candidate earlier last List.mem_cons_self
      exact before.number_le
    · rw [List.mem_singleton.mp equal]
      exact UInt64.le_refl _

end FrameTap
