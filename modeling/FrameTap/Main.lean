import FrameTap.Png.Encoding
import FrameTap.Program
import FrameTap.Settings.Loading
import Std.Async.Signal

set_option autoImplicit false

namespace FrameTap.Host

def sharedDirectory : String := "/dev/shm/"

def environmentFile : String := "/proc/self/environ"

def unending : Nat := 4611686018427387904

def faultOf (error : IO.Error) : SystemFault :=
  let named (details : String) (code : UInt32) : SystemFault :=
    match code.toNat with
    | 2 => .notFound
    | 13 => .permissionDenied
    | 19 => .noSuchDevice
    | 20 => .notADirectory
    | 21 => .isADirectory
    | 22 => .invalidArgument
    | 36 => .nameTooLong
    | n => .other s!"{details} (os error {n})"
  match error with
  | .noFileOrDirectory .. => .notFound
  | .permissionDenied _ code details => named details code
  | .invalidArgument _ code details => named details code
  | .inappropriateType _ code details => named details code
  | .resourceExhausted _ code details => named details code
  | .noSuchThing _ code details => named details code
  | .alreadyExists _ code details => named details code
  | .otherError code details => named details code
  | other => .other (toString other)

def attempt {α : Type} (action : IO α) : IO (Except SystemFault α) := do
  try
    let value ← action
    return .ok value
  catch error =>
    return .error (faultOf error)

def ofBytes (bytes : Bytes) : ByteArray := ByteArray.mk bytes.toArray

/-- A flush forgets what was buffered, so every read sees the region as it is now. -/
def readAt (handle : IO.FS.Handle) (offset length : Nat) : IO Bytes := do
  handle.flush
  handle.rewind
  let bytes ← handle.read (USize.ofNat (offset + length))
  return (bytes.extract offset (offset + length)).toList

def openFile (path : String) : IO (Except SystemFault (Mapping IO)) := do
  let opened ← attempt do
    let handle ← IO.FS.Handle.mk path IO.FS.Mode.read
    let bytes ← handle.readBinToEnd
    return { size := bytes.size, read := readAt handle }
  match opened with
  | .error .isADirectory => return .error .noSuchDevice
  | answer => return answer

def openRegion (place : RegionPlace) : IO (Except SystemFault (Mapping IO)) := do
  match place with
  | .file path => openFile path
  | .sharedObject name =>
    match SharedName.resolve "" name with
    | .error fault => return .error fault
    | .ok name => openFile (sharedDirectory ++ name)

def openSemaphore (name : String) : IO (Except SystemFault (Semaphore IO)) := do
  match SharedName.resolve SharedName.semaphoreMark name with
  | .error fault => return .error fault
  | .ok _ => return .error .notFound

def longestSleep : Nat := 4294967295

def sleep (time : Nanoseconds) : IO Unit := do
  let milliseconds := (time + 999999) / 1000000
  IO.sleep (UInt32.ofNat (min milliseconds longestSleep))

def log (notice : Notice) : IO Unit := do
  if notice.level ≠ .debug then
    let output ← IO.getStdout
    output.putStrLn s!"{notice.level.name} {notice.line}"
    output.flush

def images : ImageStore IO where
  create path := attempt (IO.FS.writeBinFile path ByteArray.empty)
  write path bitmap := attempt (IO.FS.writeBinFile path (ofBytes (Png.encode bitmap)))

def station (stop : IO.Ref Bool) : Station IO where
  openRegion := openRegion
  openSemaphore := openSemaphore
  now := IO.monoNanosNow
  wallClock := do
    let now ← IO.monoNanosNow
    return WallTime.ofNanoseconds now
  sleep := sleep
  log := log
  images := images
  stopRequested := stop.get

def stopAtInterrupt (stop : IO.Ref Bool) : IO Unit := do
  let waiter ← Std.Async.Signal.Waiter.mk .sigint false
  let interrupt ← waiter.wait
  let raise : IO Unit := do
    log .interrupted
    stop.set true
  let _ ← interrupt.mapIO fun _ => raise

def readText (path : String) : IO (Option (Option String)) := do
  match ← attempt (IO.FS.readBinFile path) with
  | .ok bytes => return some (String.fromUTF8? bytes)
  | .error _ => return none

def environment : IO (List (String × String)) := do
  match ← readText environmentFile with
  | some (some text) =>
    return (text.splitOn "\x00").filterMap fun line =>
      match line.splitOn "=" with
      | name :: value => if line.isEmpty then none else some (name, "=".intercalate value)
      | [] => none
  | _ => return []

def loadSettings (path : Option String) : IO (Option Settings) := do
  let environment ← environment
  match path with
  | none => return Settings.load (fun _ => none) none environment
  | some path =>
    let exact ← readText path
    let longer := (SettingsFile.withExtension path).getD path
    let extended ← readText longer
    let lookup : FileLookup := fun wanted => if wanted = path then exact
      else if wanted = longer then extended else none
    return Settings.load lookup (some path) environment

def reportLines : Nat → List String → List String
  | _, [] => []
  | index, line :: rest => s!"   {index}: {line}" :: reportLines (index + 1) rest

end FrameTap.Host

open FrameTap

def main (arguments : List String) : IO UInt32 := do
  let stop ← IO.mkRef false
  Host.stopAtInterrupt stop
  let exit ← Program.run (Host.station stop) (Host.loadSettings arguments.head?) Host.unending
  if exit.code ≠ 0 then
    let output ← IO.getStderr
    output.putStrLn ("\n".intercalate ("Error:" :: Host.reportLines 0 exit.report))
  return UInt32.ofNat exit.code
