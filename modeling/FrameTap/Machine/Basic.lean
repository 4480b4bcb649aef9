import FrameTap.Machine.FileTree
import FrameTap.Machine.Supervisor
import FrameTap.Statistics

set_option autoImplicit false

namespace FrameTap

structure NamedSemaphore where
  name : String
  count : Nat
  linked : Bool
  deriving DecidableEq, Repr

inductive Deed
  | overwrite (object : Nat) (patch : Patch)
  | post (semaphore : Nat)
  deriving Repr

structure Machine where
  tree : FileTree
  -- stands before every shared name, so that machines beside one another do not meet
  ownMark : String
  objects : List Bytes
  sharedNames : List (String × Nat)
  semaphores : List NamedSemaphore
  clock : Nanoseconds
  agenda : List (Nanoseconds × Deed)
  signals : Nat
  supervisor : Supervisor
  -- newest first
  journal : List Notice
  deriving Repr

namespace Machine

def idle : Machine where
  tree := FileTree.ofDirectories ["shm", "shots"]
  ownMark := ""
  objects := []
  sharedNames := []
  semaphores := []
  clock := 0
  agenda := []
  signals := 0
  supervisor := .flag false
  journal := []

def objectBytes (machine : Machine) (object : Nat) : Bytes := machine.objects.getD object []

def newestObject (machine : Machine) : Nat := machine.objects.length - 1

def changeObject (machine : Machine) (object : Nat) (change : Bytes → Bytes) : Machine :=
  { machine with objects := machine.objects.modify object change }

def postSemaphore (machine : Machine) (semaphore times : Nat) : Machine :=
  { machine with
    semaphores := machine.semaphores.modify semaphore
      (fun entry => { entry with count := entry.count + times }) }

def perform (machine : Machine) : Deed → Machine
  | .overwrite object patch => machine.changeObject object patch.apply
  | .post semaphore => machine.postSemaphore semaphore 1

def advanceTo (machine : Machine) (time : Nanoseconds) : Machine :=
  let (due, later) := machine.agenda.span (fun (at_, _) => at_ ≤ time)
  let moved := { machine with clock := max machine.clock time, agenda := later }
  due.foldl (fun machine (_, deed) => machine.perform deed) moved

def settle (machine : Machine) : Machine :=
  match machine.agenda.getLast? with
  | none => machine
  | some (time, _) => machine.advanceTo time

def schedule (machine : Machine) (delay : Nanoseconds) (deeds : List Deed) : Machine :=
  { machine with
    agenda := machine.agenda ++ deeds.map (fun deed => (machine.clock + delay, deed)) }

def fullName (machine : Machine) (name : String) : String := machine.ownMark ++ name

def createShared (machine : Machine) (name : String) (bytes : Bytes) : Machine :=
  let name := machine.fullName name
  { machine with
    objects := machine.objects ++ [bytes]
    sharedNames :=
      (name, machine.objects.length) :: machine.sharedNames.filter (fun (other, _) => other ≠ name) }

def removeShared (machine : Machine) (name : String) : Machine :=
  let name := machine.fullName name
  { machine with sharedNames := machine.sharedNames.filter (fun (other, _) => other ≠ name) }

def createFile (machine : Machine) (path : String) (bytes : Bytes) : Machine :=
  match machine.tree.create path (.object machine.objects.length) with
  | .error _ => machine
  | .ok tree => { machine with tree, objects := machine.objects ++ [bytes] }

def makeDirectoriesFor (machine : Machine) (path : String) : Machine :=
  { machine with tree := machine.tree.putDirectories (path.splitOn "/") }

def removeFile (machine : Machine) (path : String) : Machine :=
  { machine with tree := machine.tree.remove path }

def unlinkSemaphore (machine : Machine) (name : String) : Machine :=
  let name := machine.fullName name
  { machine with
    semaphores := machine.semaphores.map
      (fun entry => if entry.name = name then { entry with linked := false } else entry) }

def createSemaphore (machine : Machine) (name : String) (count : Nat) : Machine :=
  let machine := machine.unlinkSemaphore name
  let name := machine.fullName name
  { machine with semaphores := machine.semaphores ++ [{ name, count, linked := true }] }

def newestSemaphore? (machine : Machine) (name : String) : Option Nat :=
  let name := machine.fullName name
  ((machine.semaphores.zipIdx.filter (fun (entry, _) => entry.name = name)).map (·.2)).getLast?

def semaphoreCount (machine : Machine) (semaphore : Nat) : Nat :=
  match machine.semaphores[semaphore]? with
  | none => 0
  | some entry => entry.count

/-- The text of a file; `none` where there is no file, `some none` where it is not text. -/
def readText (machine : Machine) (path : String) : Option (Option String) :=
  match machine.tree.locate path with
  | .ok (.file _ (.object id)) =>
    some (String.fromUTF8? (ByteArray.mk (machine.objectBytes id).toArray))
  | .ok (.file _ _) => some none
  | _ => none

def spoken (machine : Machine) : List Notice := machine.journal.reverse

end Machine

end FrameTap
