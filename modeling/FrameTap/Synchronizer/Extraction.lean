import FrameTap.Source
import FrameTap.Synchronizer.Selection

set_option autoImplicit false

namespace FrameTap

structure Extraction where
  frames : List Frame
  dropped : UInt64
  torn : UInt64
  reset : Option SessionReset
  deriving DecidableEq, Repr

structure Attempt where
  result : Except Error Extraction
  next : Synchronizer
  notices : List Notice

/-- Frames skipped between two deliveries. The first frame of a session never counts as a
drop. -/
def gap (previous frameNumber : UInt64) : UInt64 :=
  if previous = 0 then
    0
  else
    UInt64.ofNat (frameNumber.toNat - (previous.toNat + 1))

structure Haul where
  previous : UInt64
  frames : List Frame
  dropped : UInt64
  overwritten : List UInt64
  deriving DecidableEq, Repr

namespace Haul

def start (baseline : UInt64) : Haul where
  previous := baseline
  frames := []
  dropped := 0
  overwritten := []

def discard (haul : Haul) (candidate : Candidate) : Haul :=
  { haul with overwritten := haul.overwritten ++ [candidate.frameNumber] }

def deliver (haul : Haul) (header : Header) (candidate : Candidate) (data : Bytes) : Haul :=
  { haul with
    previous := candidate.frameNumber
    dropped := haul.dropped + gap haul.previous candidate.frameNumber
    frames := haul.frames ++
      [{ data := data
         frameNumber := candidate.frameNumber
         width := header.picture.width
         height := header.picture.height
         stride := header.picture.stride
         format := header.pixelFormat
         timestampMs := candidate.timestampMs
         slot := candidate.slot }] }

def extraction (haul : Haul) (reset : Option SessionReset) : Extraction where
  frames := haul.frames
  dropped := haul.dropped
  torn := UInt64.ofNat haul.overwritten.length
  reset := reset

end Haul

def Header.currentNumber (header : Header) (candidate : Candidate) : Option UInt64 :=
  match header with
  | .single h => some h.frameNumber
  | .ring h => (candidate.slot.bind h.slots.get?).map (·.frameNumber)

namespace Source

variable {m : Type → Type} [Monad m]

def checkBounds (source : Source m) : List Candidate → m (Except Error Unit)
  | [] => return .ok ()
  | candidate :: rest => do
    let length ← source.length
    if candidate.offset + candidate.length ≤ length then
      checkBounds source rest
    else
      let length ← source.length
      return .error (.readFailure
        (.frameOutside candidate.frameNumber candidate.length candidate.offset length))

def stillCurrent (source : Source m) (candidate : Candidate) : m (Except Error Bool) := do
  match ← source.readHeader with
  | .error error => return .error error
  | .ok header => return .ok (header.currentNumber candidate = some candidate.frameNumber)

def copyCandidates (source : Source m) (header : Header) :
    List Candidate → Haul → m (Haul × Option Error)
  | [], haul => return (haul, none)
  | candidate :: rest, haul => do
    match ← source.copyOut candidate.offset candidate.length with
    | .error error => return (haul, some error)
    | .ok data =>
      match ← source.stillCurrent candidate with
      | .error error => return (haul, some error)
      | .ok false => copyCandidates source header rest (haul.discard candidate)
      | .ok true => copyCandidates source header rest (haul.deliver header candidate data)

end Source

namespace Synchronizer

variable {m : Type → Type} [Monad m]

def failedAttempt (sync : Synchronizer) (notices : List Notice) (error : Error) : Attempt where
  result := .error error
  next := sync
  notices := notices

def extract (sync : Synchronizer) (source : Source m) (mode : ExtractMode) : m Attempt := do
  match ← source.readHeader with
  | .error error => return sync.failedAttempt [] error
  | .ok header =>
    match sync.checkProtocol header with
    | .error error => return sync.failedAttempt [] error
    | .ok () =>
      let selection := sync.select mode header
      let opening := sync.selectionNotices selection
      match ← source.checkBounds selection.kept with
      | .error error => return sync.failedAttempt opening error
      | .ok () =>
        let (haul, failure) ←
          source.copyCandidates header selection.kept (Haul.start selection.baseline)
        let notices := opening ++ haul.overwritten.map Notice.overwritten
        match failure with
        | some error => return sync.failedAttempt notices error
        | none =>
          return {
            result := .ok (haul.extraction selection.reset)
            next := { sync with lastConsumed := haul.previous, lastTotal := selection.lastTotal }
            notices := notices }

end Synchronizer

end FrameTap
