import FrameTap.Source
import FrameTap.Surroundings

set_option autoImplicit false

namespace FrameTap

structure Region (m : Type → Type) where
  name : String
  source : Source m

namespace Region

variable {m : Type → Type} [Monad m]

def checkPlace (place : RegionPlace) : Except SystemFault Unit :=
  if place.label.toList.contains '\x00' then
    match place with
    | .sharedObject _ => .error .invalidArgument
    | .file _ => .error .nulInName
  else
    .ok ()

/-- A region too short for the preamble has been made but not sized yet. -/
def ofMapping (name : String) (mapping : Mapping m) : Except Error (Region m) :=
  if mapping.size < Header.preambleLength then
    .error (.protocolMismatch (.truncated Header.preambleLength mapping.size))
  else
    .ok { name, source := Source.ofMapping mapping.size mapping.read }

def openAt (env : Surroundings m) (place : RegionPlace) : m (Except Error (Region m)) := do
  match checkPlace place with
  | .error fault => return .error (.io fault)
  | .ok () =>
    match ← env.openRegion place with
    | .error .notFound => return .error (.notRunning place.label)
    | .error fault => return .error (.io fault)
    | .ok mapping =>
      match ofMapping place.label mapping with
      | .error error => return .error error
      | .ok region =>
        env.log (.mapped place.label mapping.size)
        return .ok region

end Region

end FrameTap
