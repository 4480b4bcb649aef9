set_option autoImplicit false

namespace FrameTap

abbrev Nanoseconds := Nat

def Nanoseconds.perSecond : Nanoseconds := 1000000000

def Nanoseconds.ofMilliseconds (n : Nat) : Nanoseconds := n * 1000000

def Nanoseconds.toSeconds (time : Nanoseconds) : Float :=
  Float.ofNat (time / perSecond) + Float.ofNat (time % perSecond) / 1e9

structure ClosedWindow where
  frames : UInt64
  length : Nanoseconds
  deriving DecidableEq, Repr

def ClosedWindow.framesPerSecond (window : ClosedWindow) : Float :=
  window.frames.toFloat / Nanoseconds.toSeconds window.length

structure OpenWindow where
  started : Nanoseconds
  frames : UInt64
  deriving DecidableEq, Repr

structure Statistics where
  received : UInt64
  dropped : UInt64
  torn : UInt64
  window : OpenWindow
  lastClosed : Option ClosedWindow
  deriving DecidableEq, Repr

structure Snapshot where
  received : UInt64
  dropped : UInt64
  torn : UInt64
  framesPerSecond : Float

namespace Statistics

def windowLength : Nanoseconds := Nanoseconds.perSecond

def start (now : Nanoseconds) : Statistics where
  received := 0
  dropped := 0
  torn := 0
  window := { started := now, frames := 0 }
  lastClosed := none

/-- Closes the window if a full second has passed since it started. An instant before the start
counts as no time at all. -/
def roll (statistics : Statistics) (now : Nanoseconds) : Statistics :=
  let elapsed := now - statistics.window.started
  if windowLength ≤ elapsed then
    { statistics with
      window := { started := now, frames := 0 }
      lastClosed := some { frames := statistics.window.frames, length := elapsed } }
  else
    statistics

def record (statistics : Statistics) (now : Nanoseconds) (received dropped torn : UInt64) :
    Statistics :=
  { statistics with
    received := statistics.received + received
    dropped := statistics.dropped + dropped
    torn := statistics.torn + torn
    window := { statistics.window with frames := statistics.window.frames + received } }.roll now

def reset (_ : Statistics) (now : Nanoseconds) : Statistics := start now

def throughput (statistics : Statistics) : Float :=
  match statistics.lastClosed with
  | none => 0
  | some window => window.framesPerSecond

/-- Frames per second over the last closed window. Reading closes a window that is due, so a
producer that has stalled reads zero. -/
def framesPerSecond (statistics : Statistics) (now : Nanoseconds) : Float × Statistics :=
  let rolled := statistics.roll now
  (rolled.throughput, rolled)

def snapshot (statistics : Statistics) (now : Nanoseconds) : Snapshot × Statistics :=
  let (framesPerSecond, rolled) := statistics.framesPerSecond now
  ({ received := statistics.received
     dropped := statistics.dropped
     torn := statistics.torn
     framesPerSecond }, rolled)

end Statistics

end FrameTap
