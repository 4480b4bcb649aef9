import FrameTap.Notice
import FrameTap.Statistics

set_option autoImplicit false

namespace FrameTap

namespace Path

def join (directory name : String) : String :=
  if name.startsWith "/" || directory.isEmpty then name
  else if directory.endsWith "/" then directory ++ name
  else directory ++ "/" ++ name

end Path

inductive RegionPlace
  | sharedObject (name : String)
  | file (path : String)
  deriving DecidableEq, Repr

namespace SharedName

def longestFileName : Nat := 255

-- There is room for longer names than are allowed; past it another error is answered.
def room : Nat := 259

def semaphoreMark : String := "sem."

/-- A shared name without the slashes before it, which do not count. The rest is the end of a file
name that starts with `mark`. -/
def resolve (mark name : String) : Except SystemFault String :=
  let bare := name.toList.dropWhile (· == '/')
  let size := (mark ++ String.ofList bare).utf8ByteSize
  if bare.isEmpty ∨ bare.contains '/' ∨ room < size then .error .invalidArgument
  else if longestFileName < size then .error .nameTooLong
  else .ok (String.ofList bare)

end SharedName

def RegionPlace.label : RegionPlace → String
  | .sharedObject name => name
  | .file path => path

structure WallTime where
  seconds : Int64
  nanoseconds : Nat
  deriving DecidableEq, Repr

namespace WallTime

def ofNanoseconds (time : Nanoseconds) : WallTime where
  seconds := Int64.ofNat (time / Nanoseconds.perSecond)
  nanoseconds := time % Nanoseconds.perSecond

def toNanoseconds (time : WallTime) : Int :=
  time.seconds.toInt * Nanoseconds.perSecond + time.nanoseconds

def saturatingAdd (a b : Int64) : Int64 :=
  let sum := a.toInt + b.toInt
  if Int64.maxValue.toInt < sum then Int64.maxValue
  else if sum < Int64.minValue.toInt then Int64.minValue
  else Int64.ofInt sum

def deadlineAfter (now : WallTime) (timeout : Nanoseconds) : WallTime :=
  let nanoseconds := now.nanoseconds + timeout % Nanoseconds.perSecond
  let wholeSeconds := (UInt64.ofNat (timeout / Nanoseconds.perSecond)).toInt64
  let carry := Int64.ofNat (nanoseconds / Nanoseconds.perSecond)
  { seconds := saturatingAdd (saturatingAdd wholeSeconds now.seconds) carry
    nanoseconds := nanoseconds % Nanoseconds.perSecond }

end WallTime

structure Mapping (m : Type → Type) where
  size : Nat
  read : Nat → Nat → m Bytes

inductive Take
  | taken
  | empty
  | interrupted
  deriving DecidableEq, Repr

structure Semaphore (m : Type → Type) where
  take : m (Except SystemFault Take)
  takeBefore : WallTime → m (Except SystemFault Take)
  tryTake : m (Except SystemFault Take)

structure Surroundings (m : Type → Type) where
  openRegion : RegionPlace → m (Except SystemFault (Mapping m))
  openSemaphore : String → m (Except SystemFault (Semaphore m))
  now : m Nanoseconds
  wallClock : m WallTime
  sleep : Nanoseconds → m Unit
  log : Notice → m Unit

end FrameTap
