import FrameTap.Error

set_option autoImplicit false

namespace FrameTap

namespace Terminal

def shortControls : List Nat := [0x07, 0x08, 0x0c, 0x1b, 0x7f]

def isLongControl (c : Char) : Bool := 0x80 ≤ c.toNat && c.toNat ≤ 0x9f

def escape (c : Char) : List Char :=
  let digits := Hexadecimal.digits Hexadecimal.lowerDigit 2 c.toNat
  if shortControls.contains c.toNat then ['\\', 'x'] ++ digits
  else if isLongControl c then ['\\', 'u', '\x7b'] ++ digits ++ ['\x7d']
  else [c]

def inert (text : String) : String := String.ofList (text.toList.flatMap escape)

end Terminal

inductive ExtractMode
  | latest
  | allNew
  deriving DecidableEq, Repr

def ExtractMode.describe : ExtractMode → String
  | .latest => "Latest"
  | .allNew => "AllNew"

inductive Level
  | debug
  | info
  | warn
  | error
  deriving DecidableEq, Repr

def Level.name : Level → String
  | .debug => "DEBUG"
  | .info => "INFO"
  | .warn => "WARN"
  | .error => "ERROR"

inductive Notice
  | mapped (region : String) (length : Nat)
  | eventOpened (event : String)
  | eventAbsent (event : String)
  | eventRefused (event : String) (error : Error)
  | connected (region : String) (picture : Picture) (protocol : Protocol) (polling : Bool)
  | disconnected (lastFrame received dropped : UInt64)
  | delivered (count : Nat) (lastFrame dropped : UInt64)
  | failed (error : Error)
  | countersRegressed (observed highest : UInt64)
  | overwritten (frameNumber : UInt64)
  | saved (path : String)
  | saveFailed (error : Error)
  | waitingForProducer (attempt attempts : Nat) (error : Error)
  | savingEvery (interval : UInt64) (directory : String)
  | receiving (mode : ExtractMode)
  | launching
  | interrupted
  | stoppedBeforeProducer
  | receiverError (message : String)
  | producerRestarted (lastConsumed : UInt64)
  | connectionClosed
  | shuttingDown
  deriving DecidableEq, Repr

namespace Notice

def level : Notice → Level
  | .mapped .. | .eventOpened _ | .delivered .. => .debug
  | .eventRefused .. | .failed _ | .countersRegressed .. | .overwritten _ | .receiverError _
  | .producerRestarted _ => .warn
  | .saveFailed _ => .error
  | _ => .info

def message : Notice → String
  | .mapped region length => s!"Mapped shared region {region} ({length} bytes)"
  | .eventOpened event => s!"Opened frame event {event}"
  | .eventAbsent event => s!"Event {event} not found, will use polling mode"
  | .eventRefused event error =>
    s!"Could not open event {event}: {error.message}, will use polling mode"
  | .connected region picture protocol polling =>
    let mode := if polling then "polling" else "event"
    s!"Connected to {region}: {picture.width}x{picture.height} stride {picture.stride} {protocol.name} ({mode} mode)"
  | .disconnected lastFrame received dropped =>
    s!"Disconnected (last frame {lastFrame}, received {received}, dropped {dropped})"
  | .delivered count lastFrame dropped =>
    s!"Delivered {count} frame(s) up to #{lastFrame} ({dropped} dropped)"
  | .failed error => error.message
  | .countersRegressed observed highest =>
    s!"Producer counters regressed ({observed} < {highest}), starting a new session"
  | .overwritten frameNumber =>
    s!"Frame {frameNumber} was overwritten while copying, discarding"
  | .saved path => s!"Saved: {path}"
  | .saveFailed error => s!"Failed to save frame: {error.message}"
  | .waitingForProducer attempt attempts error =>
    s!"Waiting for the producer to start streaming... (attempt {attempt}/{attempts}): {error.message}"
  | .savingEvery interval directory => s!"Saving every {interval}th frame to {directory}"
  | .receiving mode => s!"Receiving frames in {mode.describe} mode (Press Ctrl+C to stop)"
  | .launching => "Frameshare receiver launching..."
  | .interrupted => "Ctrl-C received, stopping"
  | .stoppedBeforeProducer => "Stopped before the producer came up"
  | .receiverError message => s!"Receiver error: {message}"
  | .producerRestarted lastConsumed =>
    s!"Producer restarted (was at frame {lastConsumed}), counting from scratch"
  | .connectionClosed => "Disconnected!"
  | .shuttingDown => "Frameshare receiver shutting down"

def line (notice : Notice) : String := Terminal.inert notice.message

end Notice

end FrameTap
