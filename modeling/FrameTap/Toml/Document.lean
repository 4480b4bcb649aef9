import FrameTap.Toml.Dated
import FrameTap.Toml.Number
import FrameTap.Toml.Table

set_option autoImplicit false

namespace FrameTap.Toml

def longestKeyPath : Nat := 79

def deepestNesting : Nat := 79

def simpleKey : Scan String :=
  (do
    let name ← Scan.takeWhile isBare
    if name.isEmpty then failure else return String.ofList name) <|>
  basicString <|> literalString

def keyPath : Scan (List String × String) := do
  let part : Scan String := do
    blanks
    let name ← simpleKey
    blanks
    return name
  let names ← Scan.separated part (Scan.char '.')
  if longestKeyPath < names.length then
    failure
  else
    match names.getLast? with
    | none => failure
    | some last => return (names.dropLast, last)

def boolean : Scan Bool :=
  (do Scan.text ['t', 'r', 'u', 'e']; return true) <|>
  (do Scan.text ['f', 'a', 'l', 's', 'e']; return false)

def scalar : Scan Value :=
  (do let value ← string; return .text value) <|>
  (do let value ← dateTime clockOffset; return dated value) <|>
  (do let value ← float; return .real value) <|>
  (do let value ← integer; return .integer value) <|>
  (do let value ← boolean; return .boolean value)

def array (element : Scan Value) : Scan Value := do
  let item : Scan Value := do
    filler
    let value ← element
    filler
    return value
  Scan.char '['
  let items ← Scan.optionally (Scan.separated item (Scan.char ','))
  if items.isSome then
    let _ ← Scan.optionally (Scan.char ',')
  filler
  Scan.char ']'
  return .sequence (items.getD [])

def addAll (entries : Entries) : List ((List String × String) × Value) → Option Entries
  | [] => some entries
  | ((path, key), value) :: rest => do
    let entries ← entries.addDotted key value path .header
    addAll entries rest

def inlineTable (element : Scan Value) : Scan Value := do
  let pair : Scan ((List String × String) × Value) := do
    let key ← keyPath
    Scan.char '='
    blanks
    let value ← element
    blanks
    return (key, value)
  Scan.char '\x7b'
  let pairs ← Scan.optionally (Scan.separated pair (Scan.char ','))
  blanks
  Scan.char '\x7d'
  let entries ← addAll [] (pairs.getD [])
  return .table (entriesToValues entries)

def value : Nat → Scan Value
  | 0 => scalar
  | depth + 1 => array (value depth) <|> inlineTable (value depth) <|> scalar

inductive Statement
  | assign (path : List String) (key : String) (value : Value)
  | table (path : List String) (key : String)
  | arrayTable (path : List String) (key : String)

def header : Scan Statement := do
  let nested ← Scan.optionally (Scan.text ['[', '['])
  if nested.isSome then
    let (path, key) ← keyPath
    Scan.text [']', ']']
    restOfLine
    return .arrayTable path key
  else
    Scan.char '['
    let (path, key) ← keyPath
    Scan.char ']'
    restOfLine
    return .table path key

def assignment : Scan Statement := do
  let (path, key) ← keyPath
  Scan.char '='
  blanks
  let value ← value deepestNesting
  restOfLine
  return .assign path key value

def emptyLine : Scan (Option Statement) := do
  let _ ← Scan.optionally comment
  lineEnd
  return none

def line : Scan (Option Statement) := do
  blanks
  emptyLine <|> (do let statement ← header <|> assignment; return some statement)

def statements : Scan (List Statement) := do
  let lines ← Scan.many line
  blanks
  let _ ← Scan.optionally comment
  Scan.atEnd
  return lines.filterMap id

structure Building where
  root : Entries
  current : List String

def Building.add (building : Building) : Statement → Option Building
  | .assign path key value => do
    let root ← Entries.atHeader (Entries.addDotted key value path .header) building.current
      building.root
    return { building with root }
  | .table path key => do
    let root ← Entries.atHeader (Entries.openTable key) path building.root
    return { root, current := path ++ [key] }
  | .arrayTable path key => do
    let root ← Entries.atHeader (Entries.openArrayTable key) path building.root
    return { root, current := path ++ [key] }

def Building.addAll (building : Building) : List Statement → Option Building
  | [] => some building
  | statement :: rest => do
    let building ← building.add statement
    building.addAll rest

def document (text : String) : Option (List (String × Value)) := do
  let characters := match text.toList with
    | '\ufeff' :: rest => rest
    | characters => characters
  let (lines, _) ← statements characters
  let building ← Building.addAll { root := [], current := [] } lines
  match withDates? (.table (entriesToValues building.root)) with
  | some (.table entries) => return entries
  | _ => none

end FrameTap.Toml
