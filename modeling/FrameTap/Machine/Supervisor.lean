import FrameTap.Bytes
import FrameTap.Notice

set_option autoImplicit false

namespace FrameTap

structure Stage where
  patch : Patch
  delivered : Nat
  deriving Repr

inductive Supervisor
  | flag (raised : Bool)
  | interruptsAfter (start : String) (raised : Bool)
  -- stops after the last stage; `awaited` belongs to the stage under way
  | stages (awaited : Option Nat) (delivered : Nat) (rest : List Stage)
  deriving Repr

namespace Supervisor

def hear (supervisor : Supervisor) (notice : Notice) : Supervisor × Bool :=
  match supervisor, notice with
  | .interruptsAfter start false, notice =>
    if notice.line.startsWith start then (.interruptsAfter start true, true)
    else (supervisor, false)
  | .stages awaited delivered rest, .delivered count _ _ =>
    (.stages awaited (delivered + count) rest, false)
  | supervisor, _ => (supervisor, false)

def read (supervisor : Supervisor) : Bool × List Patch × Supervisor :=
  match supervisor with
  | .flag raised => (raised, [], supervisor)
  | .interruptsAfter _ raised => (raised, [], supervisor)
  | .stages awaited delivered rest =>
    if awaited.any (delivered < ·) then
      (false, [], supervisor)
    else
      match rest with
      | [] => (true, [], supervisor)
      | stage :: rest => (false, [stage.patch], .stages (some stage.delivered) delivered rest)

end Supervisor

end FrameTap
