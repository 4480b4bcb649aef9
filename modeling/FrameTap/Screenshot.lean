import FrameTap.Bitmap
import FrameTap.Surroundings

set_option autoImplicit false

namespace FrameTap

structure ImageStore (m : Type → Type) where
  create : String → m (Except SystemFault Unit)
  write : String → Bitmap → m (Except SystemFault Unit)

structure Saver where
  directory : String
  -- zero saves nothing
  every : UInt64
  deriving DecidableEq, Repr

namespace Saver

def isDue (saver : Saver) (frame : Frame) : Bool :=
  saver.every ≠ 0 ∧ frame.frameNumber % saver.every = 0

def path (saver : Saver) (frame : Frame) : String :=
  Path.join saver.directory s!"frame_{frame.frameNumber}.png"

variable {m : Type → Type} [Monad m]

/-- The file exists before the image is found to have no pixels. -/
def store (images : ImageStore m) (path : String) (bitmap : Bitmap) :
    m (Except ImageFault Unit) := do
  match ← images.create path with
  | .error fault => return .error (.storage fault)
  | .ok () =>
    match bitmap.checkSides with
    | .error fault => return .error fault
    | .ok () =>
      match ← images.write path bitmap with
      | .error fault => return .error (.storage fault)
      | .ok () => return .ok ()

def save (env : Surroundings m) (images : ImageStore m) (saver : Saver) (frame : Frame) :
    m (Except Error String) := do
  match Bitmap.ofFrame frame with
  | .error error => return .error error
  | .ok bitmap =>
    let path := saver.path frame
    match ← store images path bitmap with
    | .error fault => return .error (.image fault)
    | .ok () =>
      env.log (.saved path)
      return .ok path

def saveIfDue (env : Surroundings m) (images : ImageStore m) (saver : Saver) (frame : Frame) :
    m (Except Error (Option String)) := do
  if saver.isDue frame then
    match ← saver.save env images frame with
    | .error error => return .error error
    | .ok path => return .ok (some path)
  else
    return .ok none

end Saver

end FrameTap
