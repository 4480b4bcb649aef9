import FrameTap.Proofs.Header.RoundTrip
import FrameTap.Proofs.Producer.Geometry
import FrameTap.Proofs.Synchronizer.Views

set_option autoImplicit false

namespace FrameTap

def SlotState.shown (state : SlotState) : Option (UInt64 × UInt64) :=
  if state.ready ≠ 0 then some (state.timestampMs, state.frameNumber) else none

namespace Header

def shownAt (header : Header) (index : Nat) : Option (UInt64 × UInt64) :=
  (header.slot? index).bind SlotState.shown

def total? : Header → Option UInt64
  | .single _ => none
  | .ring h => some h.totalFrames

/-- Headers that differ in what no extraction looks at: indices, the time of a ring, the flags of
ready slots beyond being raised, and all that is said of slots that are not ready. -/
structure Alike (left right : Header) : Prop where
  geometry : left.SameGeometry right
  picture : left.picture = right.picture
  total : left.total? = right.total?
  shown : ∀ index, left.shownAt index = right.shownAt index

theorem readyAt?_eq_shownAt (header : Header) (index : Nat) :
    header.readyAt? index =
      (header.shownAt index).map fun (timestampMs, frameNumber) =>
        { slot := header.protocol.slotName index
          frameNumber := frameNumber
          timestampMs := timestampMs
          offset := header.payloadStart index
          length := header.payloadLength } := by
  rw [readyAt?, shownAt]
  cases header.slot? index with
  | none => rfl
  | some state => by_cases ready : state.ready = 0 <;> simp [SlotState.shown, ready, candidateAt]

namespace Alike

variable {left right : Header} (alike : left.Alike right)

include alike

theorem protocol : left.protocol = right.protocol := alike.geometry.same.1.symm

theorem readyCandidates : left.readyCandidates = right.readyCandidates := by
  obtain ⟨protocol, length, start⟩ := alike.geometry.same
  have ready : left.readyAt? = right.readyAt? := by
    funext index
    rw [readyAt?_eq_shownAt, readyAt?_eq_shownAt, alike.shown, protocol, length, start]
  rw [readyCandidates_eq, readyCandidates_eq, ready, protocol]

-- A restart of a single slot is told from its flag and number, and of a ring from its total.
theorem restartObserved (sync : Synchronizer) :
    sync.restartObserved left = sync.restartObserved right := by
  have geometry := alike.geometry
  have total := alike.total
  have shown := alike.shown 0
  match left, right with
  | .single l, .single r =>
    by_cases readyLeft : l.ready = 0 <;> by_cases readyRight : r.ready = 0 <;>
      simp_all [shownAt, slot?, SlotState.shown, Synchronizer.restartObserved]
  | .ring l, .ring r => simp_all [total?, Synchronizer.restartObserved]
  | .single _, .ring _ => exact absurd geometry id
  | .ring _, .single _ => exact absurd geometry id

theorem select (sync : Synchronizer) (mode : ExtractMode) :
    sync.select mode left = sync.select mode right := by
  have restarted := alike.restartObserved sync
  have ready := alike.readyCandidates
  have geometry := alike.geometry
  have total := alike.total
  match left, right with
  | .single l, .single r => simp only [Synchronizer.select, restarted, ready]
  | .ring l, .ring r =>
    have total : l.totalFrames = r.totalFrames := Option.some.inj total
    simp only [Synchronizer.select, restarted, ready, total]
  | .single _, .ring _ => exact absurd geometry id
  | .ring _, .single _ => exact absurd geometry id

theorem settle (haul : Haul) (copies : List (Candidate × Option Bytes)) :
    haul.settle left copies = haul.settle right copies := by
  have one : Haul.settleOne left = Haul.settleOne right := by
    funext haul copy
    match copy with
    | (candidate, some data) =>
      simp [Haul.settleOne, Haul.deliver, Header.pixelFormat, alike.picture]
    | (candidate, none) => rfl
  rw [Haul.settle, Haul.settle, one]

end Alike

end Header

section Regions

variable {m : Type → Type} [Monad m] {left right : Bytes} {shownLeft shownRight : Header}

structure Indistinct (left right : Bytes) (shownLeft shownRight : Header) : Prop where
  sized : left.length = right.length
  decodedLeft : Header.decode left = .ok shownLeft
  decodedRight : Header.decode right = .ok shownRight
  alike : shownLeft.Alike shownRight
  payload : ∀ candidate, shownLeft.Declares candidate →
    candidate.payload left = candidate.payload right

namespace Indistinct

variable [LawfulMonad m] (indistinct : Indistinct left right shownLeft shownRight)

include indistinct

theorem checkProtocol (sync : Synchronizer) :
    sync.checkProtocol shownLeft = sync.checkProtocol shownRight := by
  have version : shownLeft.version = shownRight.version := by
    rw [Header.version_of_decode indistinct.decodedLeft,
      Header.version_of_decode indistinct.decodedRight, indistinct.alike.protocol]
  rw [Synchronizer.checkProtocol, Synchronizer.checkProtocol, version, indistinct.alike.protocol]

theorem fits {candidate : Candidate} : candidate.Fits left ↔ candidate.Fits right := by
  rw [Candidate.Fits, Candidate.Fits, indistinct.sized]

theorem payloadCopies {candidates : List Candidate}
    (ready : ∀ candidate ∈ candidates, candidate ∈ shownLeft.readyCandidates) :
    payloadCopies candidates left = payloadCopies candidates right := by
  refine List.map_congr_left fun candidate member => ?_
  rw [indistinct.payload candidate (Header.mem_readyCandidates.mp (ready candidate member))]

theorem copyCandidates {candidates : List Candidate}
    (ready : ∀ candidate ∈ candidates, candidate ∈ shownLeft.readyCandidates)
    (inside : ∀ candidate ∈ candidates, candidate.Fits right) (haul : Haul) :
    (Source.ofBytes left : Source m).copyCandidates shownLeft candidates haul =
      (Source.ofBytes right : Source m).copyCandidates shownRight candidates haul := by
  have readyRight : ∀ candidate ∈ candidates, candidate ∈ shownRight.readyCandidates :=
    indistinct.alike.readyCandidates ▸ ready
  have insideLeft : ∀ candidate ∈ candidates, candidate.Fits left :=
    fun candidate member => indistinct.fits.mpr (inside candidate member)
  rw [copyCandidates_ofBytes indistinct.decodedLeft ready insideLeft,
    copyCandidates_ofBytes indistinct.decodedRight readyRight inside,
    indistinct.payloadCopies ready, indistinct.alike.settle]

end Indistinct

end Regions

/-- Nothing else in a region has a part in what is extracted from it, what is remembered afterwards
and what is reported. -/
theorem extract_indistinct {left right : Bytes} {shownLeft shownRight : Header}
    (indistinct : Indistinct left right shownLeft shownRight) (sync : Synchronizer)
    (mode : ExtractMode) :
    (sync.extract (Source.ofBytes left : Source Id) mode).run =
      (sync.extract (Source.ofBytes right : Source Id) mode).run := by
  have selected := indistinct.alike.select sync mode
  have bounds : ∀ candidates, (Source.ofBytes left : Source Id).checkBounds candidates =
      (Source.ofBytes right : Source Id).checkBounds candidates :=
    checkBounds_of_length (congrArg pure indistinct.sized)
  simp only [Synchronizer.extract, readHeader_ofBytes, indistinct.decodedLeft,
    indistinct.decodedRight, Except.mapError, pure_bind, indistinct.checkProtocol, selected, bounds]
  cases sync.checkProtocol shownRight with
  | error error => rfl
  | ok _ =>
    rcases fits_or_refused (m := Id) right (sync.select mode shownRight).kept with
      inside | ⟨candidate, -, -, refused⟩
    · have ready : ∀ candidate ∈ (sync.select mode shownRight).kept,
          candidate ∈ shownLeft.readyCandidates :=
        fun candidate kept => Synchronizer.ready_of_kept (selected ▸ kept)
      simp only [indistinct.copyCandidates ready inside]
    · simp only [refused, pure_bind]

def tidyHeader : Header :=
  .ring
    { magic := Header.magicNumber, version := 2
      picture := { width := 1, height := 1, stride := 4, format := 0 }
      frameDataSize := 4, ringSize := 3, frameOffset := 124, writeIndex := 0, readIndex := 0
      totalFrames := 9, timestampMs := 0
      slots := { first := ⟨1, 70, 7⟩, second := ⟨0, 0, 0⟩, third := ⟨1, 90, 9⟩ } }

-- The second slot is about to be written: its number is new, but its flag is down.
def litteredHeader : Header :=
  .ring
    { magic := Header.magicNumber, version := 2
      picture := { width := 1, height := 1, stride := 4, format := 0 }
      frameDataSize := 4, ringSize := 3, frameOffset := 124, writeIndex := 2, readIndex := 77
      totalFrames := 9, timestampMs := 123456
      slots := { first := ⟨4294967295, 70, 7⟩, second := ⟨0, 80, 100⟩, third := ⟨2, 90, 9⟩ } }

def tidyRing : Bytes :=
  tidyHeader.encode ++ [0, 0, 0, 0, 7, 7, 7, 7, 0, 0, 0, 0, 9, 9, 9, 9, 0]

def litteredRing : Bytes :=
  litteredHeader.encode ++ [1, 2, 3, 4, 7, 7, 7, 7, 5, 5, 5, 5, 9, 9, 9, 9, 255]

theorem genuine_tidyHeader : tidyHeader.Genuine := ⟨rfl, rfl, rfl⟩

theorem genuine_litteredHeader : litteredHeader.Genuine := ⟨rfl, rfl, rfl⟩

theorem indistinct_litteredRing :
    Indistinct tidyRing litteredRing tidyHeader litteredHeader where
  sized := by
    rw [tidyRing, litteredRing, List.length_append, List.length_append, Header.length_encode,
      Header.length_encode]
    rfl
  decodedLeft := Header.decode_encode_append genuine_tidyHeader _
  decodedRight := Header.decode_encode_append genuine_litteredHeader _
  alike :=
    { geometry := ⟨rfl, rfl⟩
      picture := rfl
      total := rfl
      shown := fun index => match index with
        | 0 | 1 | 2 => rfl
        | _ + 3 => rfl }
  payload := by
    have ready : ∀ candidate ∈ tidyHeader.readyCandidates,
        candidate.payload tidyRing = candidate.payload litteredRing := by
      decide +kernel
    exact fun candidate declared => ready candidate (Header.mem_readyCandidates.mpr declared)

theorem extract_indistinct_litteredRing :
    let sync := Synchronizer.start .ring
    let taken : Except Error (List Bytes × UInt64) := .ok ([[7, 7, 7, 7], [9, 9, 9, 9]], 1)
    Indistinct tidyRing litteredRing tidyHeader litteredHeader ∧
      (sync.extract (Source.ofBytes tidyRing : Source Id) .allNew).run.result.map
        (fun extraction => (extraction.frames.map (·.data), extraction.dropped)) = taken ∧
      (sync.extract (Source.ofBytes litteredRing : Source Id) .allNew).run.result.map
        (fun extraction => (extraction.frames.map (·.data), extraction.dropped)) = taken := by
  intro sync taken
  have tidy : (sync.extract (Source.ofBytes tidyRing : Source Id) .allNew).run.result.map
      (fun extraction => (extraction.frames.map (·.data), extraction.dropped)) = taken := by
    decide +kernel
  have same := extract_indistinct indistinct_litteredRing sync .allNew
  exact ⟨indistinct_litteredRing, tidy, same ▸ tidy⟩

end FrameTap
