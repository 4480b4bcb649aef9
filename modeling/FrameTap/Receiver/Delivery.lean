import FrameTap.Receiver.Basic

set_option autoImplicit false

namespace FrameTap

namespace Receiver

variable {m : Type → Type} [Monad m]

def frameInfo : ReceiverM m (Except Error Header) := do
  let receiver ← get
  match receiver.connection with
  | none => return .error .notConnected
  | some connection =>
    let answer ← (connection.region.source.readHeader : m _)
    return answer

def counted (receiver : Receiver m) (now : Nanoseconds) (extraction : Extraction) : Receiver m :=
  { receiver with
    statistics := receiver.statistics.record now (UInt64.ofNat extraction.frames.length)
      extraction.dropped extraction.torn }

def showing (receiver : Receiver m) (frame : Frame) : Receiver m :=
  { receiver with current := some frame }

def advanced (receiver : Receiver m) (connection : Connection m) (sync : Synchronizer) :
    Receiver m :=
  { receiver with connection := some { connection with sync } }

def emitFrames : List Frame → ReceiverM m Unit
  | [] => return ()
  | frame :: rest => do
    emit (.frameReceived frame.frameNumber frame.slot)
    emitFrames rest

def emitReset : Option SessionReset → ReceiverM m Unit
  | none => return ()
  | some reset => emit (.sessionReset reset)

def deliver (env : Surroundings m) (extraction : Extraction) : ReceiverM m (List Frame) := do
  emitReset extraction.reset
  let now ← env.now
  modify (·.counted now extraction)
  match extraction.frames.getLast? with
  | none => return []
  | some last =>
    env.log (.delivered extraction.frames.length last.frameNumber extraction.dropped)
    modify (·.showing last)
    emitFrames extraction.frames
    return extraction.frames

def logAll (env : Surroundings m) : List Notice → ReceiverM m Unit
  | [] => return ()
  | notice :: rest => do
    env.log notice
    logAll env rest

def extract (env : Surroundings m) (mode : ExtractMode) :
    ReceiverM m (Except Error (List Frame)) := do
  let receiver ← get
  match receiver.connection with
  | none => return .error .notConnected
  | some connection =>
    let attempt ← (connection.sync.extract connection.region.source mode : m _)
    logAll env attempt.notices
    modify (·.advanced connection attempt.next)
    match attempt.result with
    | .ok extraction =>
      let frames ← deliver env extraction
      return .ok frames
    | .error error =>
      report env error
      return .ok []

def tryGetFrame (env : Surroundings m) : ReceiverM m (Except Error (Option Frame)) := do
  match ← extract env .latest with
  | .error error => return .error error
  | .ok frames => return .ok frames.getLast?

def tryGetAllNewFrames (env : Surroundings m) : ReceiverM m (Except Error (List Frame)) :=
  extract env .allNew

end Receiver

end FrameTap
