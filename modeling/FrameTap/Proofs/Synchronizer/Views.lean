import FrameTap.Proofs.Synchronizer.Still

set_option autoImplicit false

namespace FrameTap

section Outcomes

variable {sync : Synchronizer} {bytes : Bytes} {mode : ExtractMode}

def Synchronizer.agreedHeader (sync : Synchronizer) (bytes : Bytes) : Except Error Header :=
  match Header.decode bytes with
  | .error mismatch => .error (.protocolMismatch mismatch)
  | .ok header => (sync.checkProtocol header).map fun _ => header

theorem agreedHeader_undecodable {mismatch : Mismatch}
    (undecodable : Header.decode bytes = .error mismatch) :
    sync.agreedHeader bytes = .error (.protocolMismatch mismatch) := by
  simp [Synchronizer.agreedHeader, undecodable]

theorem agreedHeader_decoded {header : Header} (decoded : Header.decode bytes = .ok header) :
    sync.agreedHeader bytes =
      if header.protocol = sync.protocol then
        .ok header
      else
        .error (.protocolMismatch (.versionChanged sync.protocol.version header.version)) := by
  by_cases same : header.protocol = sync.protocol <;>
    simp [Synchronizer.agreedHeader, decoded, Synchronizer.checkProtocol, same, Except.map]

theorem agreedHeader_eq_ok {header : Header} :
    sync.agreedHeader bytes = .ok header ↔
      Header.decode bytes = .ok header ∧ header.protocol = sync.protocol := by
  cases decoded : Header.decode bytes with
  | error mismatch => simp [agreedHeader_undecodable decoded]
  | ok shown =>
    by_cases same : shown.protocol = sync.protocol
    · simp only [agreedHeader_decoded decoded, if_pos same, Except.ok.injEq]
      exact ⟨fun equal => ⟨equal, equal ▸ same⟩, And.left⟩
    · simp only [agreedHeader_decoded decoded, if_neg same, Except.ok.injEq]
      constructor
      · nofun
      · rintro ⟨rfl, agreed⟩
        exact absurd agreed same

-- What is gathered from a region that stands still: nothing is discarded.
def Synchronizer.stillHaul (sync : Synchronizer) (mode : ExtractMode) (header : Header)
    (bytes : Bytes) : Haul :=
  (Haul.start (sync.baseline header)).settle header
    (payloadCopies (sync.select mode header).kept bytes)

section StillHaul

variable (sync mode) (header : Header) (bytes)

@[simp] theorem stillHaul_frames :
    (sync.stillHaul mode header bytes).frames =
      (sync.select mode header).kept.map fun candidate =>
        candidate.frame header (candidate.payload bytes) :=
  settle_payloads_frames header _ bytes _

@[simp] theorem stillHaul_previous :
    (sync.stillHaul mode header bytes).previous =
      ((sync.select mode header).kept.map (·.frameNumber)).getLastD (sync.baseline header) :=
  settle_payloads_previous header _ bytes _

end StillHaul

/-- How an extraction from a region standing still ends. -/
inductive StillAttempt (sync : Synchronizer) (bytes : Bytes) (mode : ExtractMode) :
    Attempt → Prop
  | refused (mismatch : Mismatch)
      (disagreed : sync.agreedHeader bytes = .error (.protocolMismatch mismatch)) :
      StillAttempt sync bytes mode (sync.failedAttempt [] (.protocolMismatch mismatch))
  | beyond (header : Header) (candidate : Candidate)
      (agreed : sync.agreedHeader bytes = .ok header)
      (kept : candidate ∈ (sync.select mode header).kept) (outside : ¬candidate.Fits bytes) :
      StillAttempt sync bytes mode
        (sync.failedAttempt (sync.selectionNotices (sync.select mode header))
          (.readFailure (.frameOutside candidate.frameNumber candidate.length candidate.offset
            bytes.length)))
  | taken (header : Header) (agreed : sync.agreedHeader bytes = .ok header)
      (fits : ∀ candidate ∈ (sync.select mode header).kept, candidate.Fits bytes) :
      StillAttempt sync bytes mode
        { result := .ok ((sync.stillHaul mode header bytes).extraction
            (sync.select mode header).reset)
          next :=
            { sync with
              lastConsumed := (sync.stillHaul mode header bytes).previous
              lastTotal := (sync.select mode header).lastTotal }
          notices := sync.selectionNotices (sync.select mode header) ++
            (sync.stillHaul mode header bytes).overwritten.map Notice.overwritten }

variable (sync bytes mode) in
theorem stillAttempt_extract :
    StillAttempt sync bytes mode (sync.extract (Source.ofBytes bytes : Source Id) mode).run := by
  cases decoded : Header.decode bytes with
  | error mismatch =>
    rw [extract_ofBytes_undecodable (m := Id) sync mode decoded]
    exact .refused mismatch (agreedHeader_undecodable decoded)
  | ok header =>
    by_cases same : header.protocol = sync.protocol
    · have agreed : sync.agreedHeader bytes = .ok header :=
        agreedHeader_eq_ok.mpr ⟨decoded, same⟩
      by_cases fits : ∀ candidate ∈ (sync.select mode header).kept, candidate.Fits bytes
      · rw [extract_ofBytes_taken (m := Id) decoded same fits]
        exact .taken header agreed fits
      · obtain ⟨beyond, member, outside⟩ : ∃ beyond ∈ (sync.select mode header).kept,
            ¬beyond.Fits bytes := by
          simpa using fits
        obtain ⟨candidate, kept, unfit, outcome⟩ :=
          extract_ofBytes_beyond (m := Id) decoded same member outside
        rw [outcome]
        exact .beyond header candidate agreed kept unfit
    · rw [extract_ofBytes_changed (m := Id) mode decoded same]
      refine .refused _ ?_
      rw [agreedHeader_decoded decoded, if_neg same]

theorem extracted_of_still {extraction : Extraction}
    (succeeded :
      (sync.extract (Source.ofBytes bytes : Source Id) mode).run.result = .ok extraction) :
    ∃ header, sync.agreedHeader bytes = .ok header ∧
      (∀ candidate ∈ (sync.select mode header).kept, candidate.Fits bytes) ∧
      extraction =
        (sync.stillHaul mode header bytes).extraction (sync.select mode header).reset := by
  have outcome := stillAttempt_extract sync bytes mode
  generalize (sync.extract (Source.ofBytes bytes : Source Id) mode).run = attempt
    at outcome succeeded
  cases outcome with
  | refused mismatch disagreed => cases succeeded
  | beyond header candidate agreed kept outside => cases succeeded
  | taken header agreed fits =>
    cases succeeded
    exact ⟨header, agreed, fits, rfl⟩

theorem extract_agreed {header : Header} (agreed : sync.agreedHeader bytes = .ok header)
    (fits : ∀ candidate ∈ (sync.select mode header).kept, candidate.Fits bytes) :
    let attempt := (sync.extract (Source.ofBytes bytes : Source Id) mode).run
    attempt.result =
        .ok ((sync.stillHaul mode header bytes).extraction (sync.select mode header).reset) ∧
      attempt.next.lastConsumed = (sync.stillHaul mode header bytes).previous ∧
      attempt.next.lastTotal = (sync.select mode header).lastTotal := by
  obtain ⟨decoded, same⟩ := agreedHeader_eq_ok.mp agreed
  have outcome := extract_ofBytes_taken (m := Id) decoded same fits
  dsimp only
  rw [outcome]
  exact ⟨rfl, rfl, rfl⟩

end Outcomes

section Mapped

variable {m : Type → Type} [Monad m] [LawfulMonad m] {bytes : Bytes}

def Source.mapped (bytes : Bytes) : Source m :=
  Source.ofMapping bytes.length fun offset length => pure (bytes.slice offset length)

theorem copyOut_mapped {offset length : Nat} (inside : offset + length ≤ bytes.length)
    (addressable : offset + length < addressSpace) :
    (Source.mapped bytes : Source m).copyOut offset length =
      (Source.ofBytes bytes : Source m).copyOut offset length := by
  simp [Source.mapped, Source.ofMapping, Source.ofBytes, inside, Nat.not_le.mpr addressable,
    Nat.not_lt.mpr inside]

theorem readHeader_mapped :
    (Source.mapped bytes : Source m).readHeader = (Source.ofBytes bytes : Source m).readHeader := by
  obtain ⟨inside, addressable⟩ := front_inside bytes.length
  have copy := copyOut_mapped (m := m) inside addressable
  rw [readHeader_ofBytes, readHeader_of_front rfl (copy.trans (copyOut_ofBytes_of_inside inside))]

theorem stillCurrent_mapped (candidate : Candidate) :
    (Source.mapped bytes : Source m).stillCurrent candidate =
      (Source.ofBytes bytes : Source m).stillCurrent candidate := by
  simp only [Source.stillCurrent, readHeader_mapped]

omit [LawfulMonad m] in
theorem checkBounds_of_length {source other : Source m} (sized : source.length = other.length)
    (candidates : List Candidate) : source.checkBounds candidates = other.checkBounds candidates := by
  induction candidates with
  | nil => rfl
  | cons candidate rest ih => simp only [Source.checkBounds, sized, ih]

omit [LawfulMonad m] in
theorem checkBounds_mapped (candidates : List Candidate) :
    (Source.mapped bytes : Source m).checkBounds candidates =
      (Source.ofBytes bytes : Source m).checkBounds candidates := by
  apply checkBounds_of_length
  rfl

theorem addressable_of_ready {header : Header} {candidate : Candidate}
    (ready : candidate ∈ header.readyCandidates) :
    candidate.offset + candidate.length < addressSpace := by
  obtain ⟨index, state, present, -, rfl⟩ := Header.mem_readyCandidates.mp ready
  exact Header.payload_addressable (Header.slot?_lt present)

theorem copyCandidates_mapped {header : Header} {candidates : List Candidate}
    (ready : ∀ candidate ∈ candidates, candidate ∈ header.readyCandidates)
    (fits : ∀ candidate ∈ candidates, candidate.Fits bytes) (haul : Haul) :
    (Source.mapped bytes : Source m).copyCandidates header candidates haul =
      (Source.ofBytes bytes : Source m).copyCandidates header candidates haul := by
  induction candidates generalizing haul with
  | nil => rfl
  | cons candidate rest ih =>
    obtain ⟨firstReady, othersReady⟩ := List.forall_mem_cons.mp ready
    obtain ⟨firstFits, othersFit⟩ := List.forall_mem_cons.mp fits
    have copy := copyOut_mapped (m := m) firstFits (addressable_of_ready firstReady)
    simp only [Source.copyCandidates, copy, stillCurrent_mapped, ih othersReady othersFit]

/-- Bytes and a mapping of them are extracted from alike. -/
theorem extract_mapped (sync : Synchronizer) (mode : ExtractMode) :
    sync.extract (Source.mapped bytes : Source m) mode =
      sync.extract (Source.ofBytes bytes : Source m) mode := by
  simp only [Synchronizer.extract, readHeader_mapped, checkBounds_mapped, readHeader_ofBytes,
    pure_bind]
  cases Header.decode bytes with
  | error mismatch => rfl
  | ok header =>
    dsimp only [Except.mapError]
    rcases fits_or_refused (m := m) bytes (sync.select mode header).kept with
      fits | ⟨candidate, -, -, refused⟩
    · simp only [checkBounds_ofBytes_of_fits fits, pure_bind,
        copyCandidates_mapped (fun _ taken => Synchronizer.ready_of_kept taken) fits]
    · simp only [refused, pure_bind]

end Mapped

def Source.ofViews (view : Nat → Bytes) : Source (StateM Nat) where
  length call := ((view call).length, call)
  copyOut offset length call :=
    (if offset + length ≤ (view call).length then
      .ok ((view call).slice offset length)
    else
      .error (.readFailure (.outOfBounds offset length)), call + 1)

theorem readHeader_ofViews (view : Nat → Bytes) (call : Nat) :
    (Source.ofViews view).readHeader call =
      ((Header.decode (view call)).mapError .protocolMismatch, call + 1) := by
  have front : (Source.ofViews view).copyOut 0
      (min (view call).length Protocol.ring.headerLength) call =
        (.ok ((view call).slice 0 (min (view call).length Protocol.ring.headerLength)),
          call + 1) := by
    simp only [Source.ofViews, if_pos (front_inside (view call).length).1]
  have size : (Source.ofViews view).length call = ((view call).length, call) := rfl
  rw [Source.readHeader, StateM.bind_of_eq size, StateM.bind_of_eq front, ← Header.decode_front]
  rfl

end FrameTap
