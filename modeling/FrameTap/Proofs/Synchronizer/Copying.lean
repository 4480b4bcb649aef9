import FrameTap.Proofs.Header.Records
import FrameTap.Proofs.Synchronizer.Ordering

set_option autoImplicit false

namespace FrameTap

variable {σ : Type}

/-- Copies made one after the other, each with the bytes it delivered, or none where the slot had
changed. -/
inductive Copied (source : Source (StateM σ)) : σ → List (Candidate × Option Bytes) → σ → Prop
  | nil (world : σ) : Copied source world [] world
  | delivered {world copied checked after : σ} {candidate : Candidate} {data : Bytes}
      {rest : List (Candidate × Option Bytes)}
      (copy : source.copyOut candidate.offset candidate.length world = (.ok data, copied))
      (check : source.stillCurrent candidate copied = (.ok true, checked))
      (later : Copied source checked rest after) :
      Copied source world ((candidate, some data) :: rest) after
  | discarded {world copied checked after : σ} {candidate : Candidate} {data : Bytes}
      {rest : List (Candidate × Option Bytes)}
      (copy : source.copyOut candidate.offset candidate.length world = (.ok data, copied))
      (check : source.stillCurrent candidate copied = (.ok false, checked))
      (later : Copied source checked rest after) :
      Copied source world ((candidate, none) :: rest) after

namespace Haul

def settleOne (header : Header) (haul : Haul) : Candidate × Option Bytes → Haul
  | (candidate, some data) => haul.deliver header candidate data
  | (candidate, none) => haul.discard candidate

def settle (header : Header) (haul : Haul) (copies : List (Candidate × Option Bytes)) : Haul :=
  copies.foldl (settleOne header) haul

end Haul

def Candidate.frame (header : Header) (candidate : Candidate) (data : Bytes) : Frame where
  data := data
  frameNumber := candidate.frameNumber
  width := header.picture.width
  height := header.picture.height
  stride := header.picture.stride
  format := header.pixelFormat
  timestampMs := candidate.timestampMs
  slot := candidate.slot

def deliveredFrames (header : Header) (copies : List (Candidate × Option Bytes)) : List Frame :=
  copies.filterMap fun (candidate, data?) => data?.map (candidate.frame header)

def frameNumbers (frames : List Frame) : List UInt64 := frames.map (·.frameNumber)

theorem numbers_deliveredFrames_sublist (header : Header)
    (copies : List (Candidate × Option Bytes)) :
    (frameNumbers (deliveredFrames header copies)).Sublist
      ((copies.map Prod.fst).map (·.frameNumber)) := by
  induction copies with
  | nil => exact List.Sublist.refl _
  | cons copy rest ih =>
    match copy with
    | (candidate, some data) => exact ih.cons_cons candidate.frameNumber
    | (candidate, none) => exact ih.cons candidate.frameNumber

theorem length_deliveredFrames (header : Header) (copies : List (Candidate × Option Bytes)) :
    (deliveredFrames header copies).length + (copies.filter (·.2.isNone)).length =
      copies.length := by
  induction copies with
  | nil => rfl
  | cons copy rest ih =>
    match copy with
    | (candidate, some data) =>
      change (deliveredFrames header rest).length + 1 + (rest.filter (·.2.isNone)).length =
        rest.length + 1
      omega
    | (candidate, none) => exact congrArg (· + 1) ih

-- The frames missed between consecutive numbers, after `previous`, as an exact sum.
def missed : UInt64 → List UInt64 → Nat
  | _, [] => 0
  | previous, number :: rest => (gap previous number).toNat + missed number rest

namespace Haul

variable (header : Header) (haul : Haul) (copies : List (Candidate × Option Bytes))

theorem settle_frames :
    (haul.settle header copies).frames = haul.frames ++ deliveredFrames header copies := by
  induction copies generalizing haul with
  | nil => exact (List.append_nil _).symm
  | cons copy rest ih =>
    match copy with
    | (candidate, some data) =>
      change ((haul.deliver header candidate data).settle header rest).frames = _
      rw [ih, deliver, List.append_assoc]
      rfl
    | (candidate, none) => exact ih (haul.discard candidate)

theorem settle_previous :
    (haul.settle header copies).previous =
      (frameNumbers (deliveredFrames header copies)).getLastD haul.previous := by
  induction copies generalizing haul with
  | nil => rfl
  | cons copy rest ih =>
    match copy with
    | (candidate, some data) =>
      change ((haul.deliver header candidate data).settle header rest).previous = _
      rw [ih]
      exact List.getLastD_cons.symm
    | (candidate, none) => exact ih (haul.discard candidate)

theorem settle_dropped :
    (haul.settle header copies).dropped.toNat =
      (haul.dropped.toNat +
        missed haul.previous (frameNumbers (deliveredFrames header copies))) % UInt64.size := by
  induction copies generalizing haul with
  | nil => exact (Nat.mod_eq_of_lt haul.dropped.toNat_lt_size).symm
  | cons copy rest ih =>
    match copy with
    | (candidate, some data) =>
      change ((haul.deliver header candidate data).settle header rest).dropped.toNat = _
      rw [ih]
      change ((haul.dropped + gap haul.previous candidate.frameNumber).toNat + _) % _ =
        (haul.dropped.toNat + ((gap haul.previous candidate.frameNumber).toNat + _)) % _
      rw [UInt64.toNat_add, ← Nat.add_assoc]
      exact Nat.mod_add_mod _ _ _
    | (candidate, none) => exact ih (haul.discard candidate)

theorem settle_overwritten :
    (haul.settle header copies).overwritten =
      haul.overwritten ++ (copies.filter (·.2.isNone)).map (·.1.frameNumber) := by
  induction copies generalizing haul with
  | nil => exact (List.append_nil _).symm
  | cons copy rest ih =>
    match copy with
    | (candidate, some data) => exact ih (haul.deliver header candidate data)
    | (candidate, none) =>
      change ((haul.discard candidate).settle header rest).overwritten = _
      rw [ih, discard, List.append_assoc]
      rfl

end Haul

theorem copied_of_copyCandidates {source : Source (StateM σ)} {header : Header}
    {candidates : List Candidate} {haul finished : Haul} {failure : Option Error} {world after : σ}
    (done : source.copyCandidates header candidates haul world = ((finished, failure), after)) :
    ∃ copies reached, Copied source world copies reached ∧ copies.map Prod.fst <+: candidates ∧
      finished = haul.settle header copies ∧
      (failure = none → copies.map Prod.fst = candidates ∧ reached = after) := by
  -- On a failure the induction stops with the copies made so far.
  induction candidates generalizing haul world with
  | nil =>
    cases done
    exact ⟨[], _, .nil _, List.prefix_rfl, rfl, fun _ => ⟨rfl, rfl⟩⟩
  | cons candidate rest ih =>
    rw [Source.copyCandidates] at done
    rcases copy : source.copyOut candidate.offset candidate.length world with ⟨answer, copied⟩
    rw [StateM.bind_of_eq copy] at done
    cases answer with
    | error error =>
      cases done
      exact ⟨[], world, .nil world, List.nil_prefix, rfl, nofun⟩
    | ok data =>
      rcases check : source.stillCurrent candidate copied with ⟨verdict, checked⟩
      dsimp only at done
      rw [StateM.bind_of_eq check] at done
      match verdict, check, done with
      | .error error, check, done =>
        cases done
        exact ⟨[], world, .nil world, List.nil_prefix, rfl, nofun⟩
      | .ok false, check, done =>
        obtain ⟨copies, reached, made, named, settled, ended⟩ := ih done
        exact ⟨(candidate, none) :: copies, reached, .discarded copy check made,
          List.prefix_cons_inj candidate |>.mpr named, settled,
          fun success => ⟨by simp [ended success], (ended success).2⟩⟩
      | .ok true, check, done =>
        obtain ⟨copies, reached, made, named, settled, ended⟩ := ih done
        exact ⟨(candidate, some data) :: copies, reached, .delivered copy check made,
          List.prefix_cons_inj candidate |>.mpr named, settled,
          fun success => ⟨by simp [ended success], (ended success).2⟩⟩

structure Extracted (sync : Synchronizer) (source : Source (StateM σ)) (mode : ExtractMode)
    (world : σ) (header : Header) (copies : List (Candidate × Option Bytes))
    (extraction : Extraction) (next : Synchronizer) (after : σ) : Prop where
  run : ∃ scanned checked,
    source.readHeader world = (.ok header, scanned) ∧
      source.checkBounds (sync.select mode header).kept scanned = (.ok (), checked) ∧
      Copied source checked copies after
  protocol : header.protocol = sync.protocol
  candidates : copies.map Prod.fst = (sync.select mode header).kept
  extraction_eq : extraction =
    ((Haul.start (sync.baseline header)).settle header copies).extraction
      (sync.select mode header).reset
  next_eq : next =
    { sync with
      lastConsumed := ((Haul.start (sync.baseline header)).settle header copies).previous
      lastTotal := (sync.select mode header).lastTotal }

theorem Extracted.kept_prefix {sync next : Synchronizer} {source : Source (StateM σ)}
    {mode : ExtractMode} {world after : σ} {header : Header}
    {copies : List (Candidate × Option Bytes)} {extraction : Extraction}
    (extracted : Extracted sync source mode world header copies extraction next after) :
    copies.map Prod.fst <+: (sync.select mode header).kept :=
  extracted.candidates ▸ List.prefix_rfl

theorem extract_cases (sync : Synchronizer) (source : Source (StateM σ)) (mode : ExtractMode)
    (world : σ) {attempt : Attempt} {after : σ}
    (run : sync.extract source mode world = (attempt, after)) :
    (∃ error, attempt.result = .error error ∧ attempt.next = sync) ∨
      ∃ header copies extraction, attempt.result = .ok extraction ∧
        Extracted sync source mode world header copies extraction attempt.next after := by
  rw [Synchronizer.extract] at run
  -- Each step that can fail returns the synchronizer it began with.
  rcases scan : source.readHeader world with ⟨answer, scanned⟩
  rw [StateM.bind_of_eq scan] at run
  cases answer with
  | error error =>
    cases run
    exact Or.inl ⟨error, rfl, rfl⟩
  | ok header =>
    by_cases same : header.protocol = sync.protocol
    · simp only [Synchronizer.checkProtocol, if_pos same] at run
      rcases bounds : source.checkBounds (sync.select mode header).kept scanned with
        ⟨verdict, checked⟩
      rw [StateM.bind_of_eq bounds] at run
      cases verdict with
      | error error =>
        cases run
        exact Or.inl ⟨error, rfl, rfl⟩
      | ok _ =>
        rcases copying : source.copyCandidates header (sync.select mode header).kept
          (Haul.start (sync.select mode header).baseline) checked with ⟨⟨haul, failure⟩, copied⟩
        dsimp only at run
        rw [StateM.bind_of_eq copying] at run
        cases failure with
        | some error =>
          cases run
          exact Or.inl ⟨error, rfl, rfl⟩
        | none =>
          obtain ⟨copies, reached, made, -, settled, ended⟩ := copied_of_copyCandidates copying
          obtain ⟨named, rfl⟩ := ended rfl
          cases run
          refine Or.inr ⟨header, copies, _, rfl, ⟨⟨scanned, checked, scan, bounds, made⟩, same,
            named, ?_, ?_⟩⟩
          · rw [settled]
            rfl
          · rw [settled]
            rfl
    · simp only [Synchronizer.checkProtocol, if_neg same] at run
      cases run
      exact Or.inl ⟨_, rfl, rfl⟩

theorem extracted_of_ok {sync : Synchronizer} {source : Source (StateM σ)} {mode : ExtractMode}
    {world : σ} {extraction : Extraction}
    (succeeded : (sync.extract source mode world).1.result = .ok extraction) :
    ∃ header copies, (source.readHeader world).1 = .ok header ∧
      Extracted sync source mode world header copies extraction
        (sync.extract source mode world).1.next (sync.extract source mode world).2 := by
  rcases run : sync.extract source mode world with ⟨attempt, after⟩
  rw [run] at succeeded
  rcases extract_cases sync source mode world run with
    ⟨_, failed, -⟩ | ⟨header, copies, found, result, extracted⟩
  · cases failed.symm.trans succeeded
  · obtain rfl : found = extraction := Except.ok.inj (result.symm.trans succeeded)
    obtain ⟨_, _, scan, -⟩ := extracted.run
    exact ⟨header, copies, congrArg Prod.fst scan, extracted⟩

end FrameTap
