import FrameTap.Header.Codec
import FrameTap.Notice

set_option autoImplicit false

namespace FrameTap

structure Candidate where
  slot : Option Nat
  frameNumber : UInt64
  timestampMs : UInt64
  offset : Nat
  length : Nat
  deriving DecidableEq, Repr

namespace Candidate

def ofSlot (header : RingHeader) (index : Nat) (state : SlotState) : Candidate where
  slot := some index
  frameNumber := state.frameNumber
  timestampMs := state.timestampMs
  offset := header.slotOffset index
  length := header.frameDataSize.toNat

def insertByNumber (candidate : Candidate) : List Candidate → List Candidate
  | [] => [candidate]
  | next :: rest =>
    if candidate.frameNumber ≤ next.frameNumber then
      candidate :: next :: rest
    else
      next :: insertByNumber candidate rest

/-- Orders by frame number. An unstable sort promises no order of equal numbers; the one in use
leaves lists as short as these in slot order. -/
def sortByNumber (candidates : List Candidate) : List Candidate :=
  candidates.foldr insertByNumber []

end Candidate

def Header.readyCandidates : Header → List Candidate
  | .single h =>
    if h.ready ≠ 0 then
      [{ slot := none
         frameNumber := h.frameNumber
         timestampMs := h.timestampMs
         offset := Protocol.single.headerLength
         length := h.dataSize.toNat }]
    else
      []
  | .ring h =>
    (h.slots.toList.zipIdx.filter (fun (state, _) => state.ready ≠ 0)).map
      (fun (state, index) => Candidate.ofSlot h index state)

structure SessionReset where
  lastConsumed : UInt64
  observed : UInt64
  deriving DecidableEq, Repr

structure Synchronizer where
  protocol : Protocol
  lastConsumed : UInt64
  -- highest total a ring header showed in this session
  lastTotal : UInt64
  deriving DecidableEq, Repr

structure Selection where
  reset : Option SessionReset
  baseline : UInt64
  lastTotal : UInt64
  kept : List Candidate
  deriving DecidableEq, Repr

namespace Synchronizer

def start (protocol : Protocol) : Synchronizer where
  protocol := protocol
  lastConsumed := 0
  lastTotal := 0

def reset (sync : Synchronizer) : Synchronizer := start sync.protocol

def checkProtocol (sync : Synchronizer) (header : Header) : Except Error Unit :=
  if header.protocol = sync.protocol then
    .ok ()
  else
    .error (.protocolMismatch (.versionChanged sync.protocol.version header.version))

/-- A single slot shows a restart by a ready frame numbered below the last consumed one, a ring by
a total that went backwards. -/
def restartObserved (sync : Synchronizer) : Header → Option UInt64
  | .single h =>
    if h.ready ≠ 0 ∧ h.frameNumber < sync.lastConsumed then some h.frameNumber else none
  | .ring h => if h.totalFrames < sync.lastTotal then some h.totalFrames else none

def hasNewFrame (sync : Synchronizer) (header : Header) : Bool :=
  header.protocol = sync.protocol ∧
    ((sync.restartObserved header).isSome ∨
      header.readyCandidates.any (fun candidate => sync.lastConsumed < candidate.frameNumber))

def select (sync : Synchronizer) (mode : ExtractMode) (header : Header) : Selection :=
  let restart := sync.restartObserved header
  let baseline := if restart.isSome then 0 else sync.lastConsumed
  let total := if restart.isSome then 0 else sync.lastTotal
  let fresh := Candidate.sortByNumber
    (header.readyCandidates.filter (fun candidate => baseline < candidate.frameNumber))
  { reset := restart.map (fun observed => { lastConsumed := sync.lastConsumed, observed })
    baseline := baseline
    lastTotal :=
      match header with
      | .single _ => total
      | .ring h => max total h.totalFrames
    kept :=
      match mode with
      | .latest => fresh.drop (fresh.length - 1)
      | .allNew => fresh }

def selectionNotices (sync : Synchronizer) (selection : Selection) : List Notice :=
  match selection.reset with
  | none => []
  | some reset => [.countersRegressed reset.observed (max sync.lastConsumed sync.lastTotal)]

end Synchronizer

end FrameTap
