import FrameTap.Surroundings

/-!
The producer's notification: a named semaphore that it raises after each frame. A wait takes one
unit and then all others, so several posts between two waits are one wake-up. Loops that only the
semaphore can end take a `patience`; `none` means that it ran out first.
-/

set_option autoImplicit false

namespace FrameTap

structure Event (m : Type → Type) where
  name : String
  semaphore : Semaphore m

namespace Event

variable {m : Type → Type} [Monad m]

def openNamed (env : Surroundings m) (name : String) : m (Except Error (Option (Event m))) := do
  if name.toList.contains '\x00' then
    return .error (.readFailure (.invalidEventName name))
  else
    match ← env.openSemaphore name with
    | .error .notFound => return .ok none
    | .error fault => return .error (.io fault)
    | .ok semaphore => return .ok (some { name, semaphore })

def takeThrough (take : m (Except SystemFault Take)) : Nat → m (Option (Except Error Bool))
  | 0 => return none
  | patience + 1 => do
    match ← take with
    | .error fault => return some (.error (.io fault))
    | .ok .taken => return some (.ok true)
    | .ok .empty => return some (.ok false)
    | .ok .interrupted => takeThrough take patience

def takeNow (event : Event m) : m (Except Error Bool) := do
  match ← event.semaphore.tryTake with
  | .error fault => return .error (.io fault)
  | .ok .taken => return .ok true
  | .ok _ => return .ok false

def drain (event : Event m) : Nat → m (Option (Except Error Unit))
  | 0 => return none
  | patience + 1 => do
    match ← event.takeNow with
    | .error error => return some (.error error)
    | .ok true => drain event patience
    | .ok false => return some (.ok ())

def awaitSignal (env : Surroundings m) (event : Event m) (timeout : Option Nanoseconds)
    (patience : Nat) : m (Option (Except Error Bool)) := do
  match timeout with
  | none => takeThrough event.semaphore.take patience
  | some 0 =>
    let taken ← event.takeNow
    return some taken
  | some timeout =>
    let now ← env.wallClock
    takeThrough (event.semaphore.takeBefore (now.deadlineAfter timeout)) patience

def wait (env : Surroundings m) (event : Event m) (timeout : Option Nanoseconds)
    (patience : Nat) : m (Option (Except Error Bool)) := do
  match ← event.awaitSignal env timeout patience with
  | some (.ok true) =>
    match ← event.drain patience with
    | none => return none
    | some (.error error) => return some (.error error)
    | some (.ok ()) => return some (.ok true)
  | answer => return answer

end Event

end FrameTap
