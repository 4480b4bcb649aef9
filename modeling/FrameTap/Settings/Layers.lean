set_option autoImplicit false

namespace FrameTap

inductive Value
  | null
  | boolean (value : Bool)
  | integer (value : Int)
  | real (value : Float)
  | text (value : String)
  | sequence (items : List Value)
  | table (entries : List (String × Value))
  deriving Inhabited, Repr

namespace Value

def entriesOf : Value → List (String × Value)
  | .table entries => entries
  | _ => []

def itemsOf : Value → List Value
  | .sequence items => items
  | _ => []

def putEntry (key : String) (value : Value) : List (String × Value) → List (String × Value)
  | [] => [(key, value)]
  | (other, old) :: rest =>
    if other = key then (key, value) :: rest else (other, old) :: putEntry key value rest

mutual

def overlay (target : Value) (key : String) : Value → Value
  | .table entries =>
    let present := target.entriesOf
    let inner := (present.lookup key.toLower).getD (.table [])
    .table (putEntry key.toLower (overlayAll inner entries) present)
  | value => .table (putEntry key.toLower value target.entriesOf)

def overlayAll (target : Value) : List (String × Value) → Value
  | [] => target
  | (key, value) :: rest => overlayAll (overlay target key value) rest

end

end Value

inductive SettingPath
  | key (name : String)
  | child (parent : SettingPath) (name : String)
  -- counted from the end if negative
  | item (parent : SettingPath) (index : Int)

namespace SettingPath

def placeInList (index : Int) (length : Nat) : Nat :=
  if index < 0 then length - index.natAbs else index.natAbs

def setItem (items : List Value) (index : Int) (value : Value) : List Value :=
  let place := placeInList index items.length
  (items ++ List.replicate (place + 1 - items.length) Value.null).set place value

/-- Changes what is at a place; tables and lists on the way are made where there are none. -/
def change : SettingPath → (Value → Value) → Value → Value
  | .key name, update, root =>
    match root with
    | .table entries =>
      .table (Value.putEntry name (update ((entries.lookup name).getD .null)) entries)
    | other => other
  | .child parent name, update, root =>
    parent.change
      (fun value =>
        let entries := value.entriesOf
        .table (Value.putEntry name (update ((entries.lookup name).getD .null)) entries))
      root
  | .item parent index, update, root =>
    parent.change
      (fun value =>
        let items := value.itemsOf
        let old := items.getD (placeInList index items.length) .null
        .sequence (setItem items index (update old)))
      root

def assign (path : SettingPath) (value root : Value) : Value :=
  match path with
  | .key name => root.overlay name value
  | .child parent name => parent.change (fun target => target.overlay name value) root
  | .item parent index =>
    parent.change (fun target => .sequence (setItem target.itemsOf index value)) root

def isNameCharacter (c : Char) : Bool := c.isAlphanum || c == ' ' || c == '_' || c == '-'

def isBlank (c : Char) : Bool := c == ' ' || c == '\t'

def index? (characters : List Char) : Option Int :=
  let body := ((characters.dropWhile isBlank).reverse.dropWhile isBlank).reverse
  let (negative, digits) := match body with
    | '-' :: digits => (true, digits)
    | digits => (false, digits)
  if digits.isEmpty ∨ ¬ digits.all Char.isDigit then none
  else
    let size : Nat := digits.foldl (fun value c => value * 10 + (c.toNat - 48)) 0
    let index : Int := if negative then -size else size
    if Int64.minValue.toInt ≤ index ∧ index ≤ Int64.maxValue.toInt then some index else none

/-- The steps after the first name. Each takes at least one character, so as many steps as there
are characters are enough. -/
def steps : Nat → SettingPath → List Char → Option SettingPath
  | _, path, [] => some path
  | limit + 1, path, '.' :: rest =>
    let (name, rest) := rest.span isNameCharacter
    if name.isEmpty then none else steps limit (.child path (String.ofList name)) rest
  | limit + 1, path, '[' :: rest =>
    let (inside, rest) := rest.span (· != ']')
    match index? inside, rest with
    | some index, _ :: rest => steps limit (.item path index) rest
    | _, _ => none
  | _, _, _ => none

def parse? (text : String) : Option SettingPath :=
  let (name, rest) := text.toList.span isNameCharacter
  if name.isEmpty then none else steps rest.length (.key (String.ofList name)) rest

def ofName (name : String) : SettingPath :=
  let key := name.toLower
  (parse? key).getD (.key key)

end SettingPath

namespace Value

def addLayer (root : Value) (layer : List (String × Value)) : Value :=
  layer.foldl (fun root (name, value) => (SettingPath.ofName name).assign value root) root

end Value

end FrameTap
