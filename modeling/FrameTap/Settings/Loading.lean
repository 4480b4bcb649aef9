import FrameTap.Settings.Layers
import FrameTap.Settings.Reading
import FrameTap.Toml.Document

set_option autoImplicit false

namespace FrameTap

/-- Looks a file up: `none` where there is none, `some none` where it is not text. -/
abbrev FileLookup := String → Option (Option String)

namespace SettingsFile

def extension : String := "toml"

/-- The last part of a path that names something, and what precedes it. Blank parts and single
dots at the end name nothing. -/
def splitName (path : String) : Option (List String × String) :=
  match (path.splitOn "/").reverse.dropWhile (fun part => part = "" ∨ part = ".") with
  | [] => none
  | ".." :: _ => none
  | name :: before => some (before.reverse, name)

def extensionOf (path : String) : Option String :=
  (splitName path).bind fun (_, name) =>
    match name.splitOn "." with
    | [] => none
    | [_] => none
    | ["", _] => none
    | parts => parts.getLast?

def withExtension (path : String) : Option String :=
  (splitName path).map fun (before, name) =>
    "/".intercalate (before ++ [name ++ "." ++ extension])

/-- The text of the file at a path or, where there is none, at the path with the extension put
after it. A file at the path itself must have the extension already. -/
def find (lookup : FileLookup) (path : String) : Option String :=
  match lookup path with
  | some text => if extensionOf path = some extension then text else none
  | none => (withExtension path).bind (fun longer => (lookup longer).join)

end SettingsFile

namespace Settings

def variablePrefix : String := "frameshare__"

/-- A variable of this program sets what its name says after the prefix, with double underscores
between the parts. Names are in lower case whatever the variable's. -/
def ofVariable (name text : String) : Option (String × Value) :=
  let name := name.toLower
  if name.startsWith variablePrefix then
    let rest := (name.drop variablePrefix.length).toString
    some (".".intercalate (rest.splitOn "__"), .text text)
  else
    none

def load (lookup : FileLookup) (path : Option String) (environment : List (String × String)) :
    Option Settings := do
  let fileLayer ← match path with
    | none => some []
    | some path => (SettingsFile.find lookup path).bind Toml.document
  let root := (Value.table []).addLayer fileLayer
  let variableLayer := environment.filterMap fun (name, text) => ofVariable name text
  Settings.read? .lenient (root.addLayer variableLayer)

end Settings

end FrameTap
