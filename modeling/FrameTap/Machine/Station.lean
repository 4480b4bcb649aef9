import FrameTap.Demo
import FrameTap.Machine.Basic

set_option autoImplicit false

namespace FrameTap

namespace Machine

def mappingOf (object : Nat) (size : Nat) : Mapping (StateM Machine) where
  size := size
  read offset length := do
    let machine ← get
    return (machine.objectBytes object).slice offset length

def sharedDirectories : List String := [".", ".."]

def findRegion (machine : Machine) (place : RegionPlace) : Except SystemFault Nat :=
  match place with
  | .sharedObject name =>
    match SharedName.resolve "" (machine.fullName name) with
    | .error fault => .error fault
    | .ok name =>
      if name ∈ sharedDirectories then .error .noSuchDevice
      else
        match machine.sharedNames.lookup name with
        | none => .error .notFound
        | some object => .ok object
  | .file path =>
    match machine.tree.locate path with
    | .error fault => .error fault
    | .ok (.directory _) => .error .noSuchDevice
    | .ok (.absent _) => .error .notFound
    | .ok (.file _ (.object object)) => .ok object
    | .ok (.file _ _) => .error .permissionDenied

def openRegion (place : RegionPlace) :
    StateM Machine (Except SystemFault (Mapping (StateM Machine))) := do
  let machine ← get
  match machine.findRegion place with
  | .error fault => return .error fault
  | .ok object => return .ok (mappingOf object (machine.objectBytes object).length)

def takeUnit (machine : Machine) (semaphore : Nat) : Machine :=
  { machine with
    semaphores := machine.semaphores.modify semaphore
      (fun entry => { entry with count := entry.count - 1 }) }

def tryTake (semaphore : Nat) (machine : Machine) : Take × Machine :=
  if machine.semaphoreCount semaphore = 0 then (.empty, machine)
  else (.taken, machine.takeUnit semaphore)

/-- Lets the agenda run until there is something to take or the deadline comes. Where nothing is
left to wait for, the call keeps being interrupted. -/
def awaitUnit (semaphore : Nat) (deadline : Option Nanoseconds) :
    List (Nanoseconds × Deed) → Machine → Take × Machine
  | [], machine =>
    if machine.semaphoreCount semaphore ≠ 0 then (.taken, machine.takeUnit semaphore)
    else
      match deadline with
      | none => (.interrupted, machine)
      | some deadline => (.empty, machine.advanceTo deadline)
  | (time, _) :: rest, machine =>
    if machine.semaphoreCount semaphore ≠ 0 then (.taken, machine.takeUnit semaphore)
    else if deadline.any (· < time) then (.empty, machine.advanceTo (deadline.getD time))
    else awaitUnit semaphore deadline rest (machine.advanceTo time)

def takeBlocking (semaphore : Nat) (deadline : Option Nanoseconds) (machine : Machine) :
    Take × Machine :=
  if machine.signals ≠ 0 then
    (.interrupted, { machine with signals := machine.signals - 1 })
  else
    awaitUnit semaphore deadline machine.agenda machine

def semaphoreHandle (semaphore : Nat) : Semaphore (StateM Machine) where
  take := do
    let answer ← takeBlocking semaphore none
    return .ok answer
  takeBefore deadline := do
    let answer ← takeBlocking semaphore (some deadline.toNanoseconds.toNat)
    return .ok answer
  tryTake := do
    let answer ← tryTake semaphore
    return .ok answer

def openSemaphore (name : String) :
    StateM Machine (Except SystemFault (Semaphore (StateM Machine))) := do
  let machine ← get
  match SharedName.resolve SharedName.semaphoreMark (machine.fullName name) with
  | .error fault => return .error fault
  | .ok name =>
    match machine.semaphores.findIdx? (fun entry => entry.name = name ∧ entry.linked) with
    | none => return .error .notFound
    | some semaphore => return .ok (semaphoreHandle semaphore)

def log (notice : Notice) : StateM Machine Unit :=
  modify fun machine =>
    let (supervisor, interrupts) := machine.supervisor.hear notice
    let journal := notice :: machine.journal
    { machine with
      supervisor
      journal := if interrupts then .interrupted :: journal else journal }

def surroundings : Surroundings (StateM Machine) where
  openRegion := openRegion
  openSemaphore := openSemaphore
  now := do
    let machine ← get
    return machine.clock
  wallClock := do
    let machine ← get
    return WallTime.ofNanoseconds machine.clock
  sleep time := modify fun machine => machine.advanceTo (machine.clock + time)
  log := log

def images : ImageStore (StateM Machine) where
  create path := do
    let machine ← get
    match machine.tree.create path .empty with
    | .error fault => return .error fault
    | .ok tree =>
      set { machine with tree }
      return .ok ()
  write path bitmap := do
    let machine ← get
    match machine.tree.create path (.image bitmap) with
    | .error fault => return .error fault
    | .ok tree =>
      set { machine with tree }
      return .ok ()

def stopRequested : StateM Machine Bool := do
  let machine ← get
  let (answer, patches, supervisor) := machine.supervisor.read
  let changed := patches.foldl
    (fun machine patch => machine.changeObject machine.newestObject patch.apply) machine
  set { changed with supervisor }
  return answer

def station : Station (StateM Machine) where
  toSurroundings := surroundings
  images := images
  stopRequested := stopRequested

end Machine

end FrameTap
