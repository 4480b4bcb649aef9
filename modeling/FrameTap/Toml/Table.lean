import FrameTap.Settings.Layers

set_option autoImplicit false

namespace FrameTap.Toml

inductive Origin
  | header
  | implied
  | dotted
  deriving DecidableEq

inductive Node
  | value (value : Value)
  | table (origin : Origin) (entries : List (String × Node))
  -- an array of tables, which headers extend; newest first
  | tables (items : List (List (String × Node)))

abbrev Entries := List (String × Node)

namespace Entries

def put (key : String) (node : Node) : Entries → Entries
  | [] => [(key, node)]
  | (other, old) :: rest =>
    if other = key then (key, node) :: rest else (other, old) :: put key node rest

/-- Adds one entry under a dotted path. It may go through tables that no header names, and may
end only in one that dotted keys made. -/
def addDotted (key : String) (value : Value) :
    List String → Origin → Entries → Option Entries
  | [], _, entries =>
    if (entries.lookup key).isSome then none else some (entries ++ [(key, .value value)])
  | name :: rest, _, entries =>
    match entries.lookup name with
    | none => do
      let inner ← addDotted key value rest .dotted []
      return put name (.table .dotted inner) entries
    | some (.value _) => none
    | some (.tables []) => none
    | some (.tables (newest :: older)) =>
      if rest.isEmpty then none
      else do
        let inner ← addDotted key value rest .header newest
        return put name (.tables (inner :: older)) entries
    | some (.table origin inside) =>
      if origin = .header ∨ (rest.isEmpty ∧ origin ≠ .dotted) then none
      else do
        let inner ← addDotted key value rest origin inside
        return put name (.table origin inner) entries

/-- Changes the table that a header path leads to, through the newest table of each array. -/
def atHeader (change : Entries → Option Entries) : List String → Entries → Option Entries
  | [], entries => change entries
  | name :: rest, entries =>
    match entries.lookup name with
    | none => do
      let inner ← atHeader change rest []
      return put name (.table .implied inner) entries
    | some (.value _) => none
    | some (.tables []) => none
    | some (.tables (newest :: older)) => do
      let inner ← atHeader change rest newest
      return put name (.tables (inner :: older)) entries
    | some (.table origin inside) => do
      let inner ← atHeader change rest inside
      return put name (.table origin inner) entries

def erase (key : String) (entries : Entries) : Entries :=
  entries.filter (fun (other, _) => other ≠ key)

/-- A header may name a table once, also after the tables inside it; the table then comes last. -/
def openTable (key : String) (entries : Entries) : Option Entries :=
  match entries.lookup key with
  | none => some (put key (.table .header []) entries)
  | some (.table .implied inside) =>
    some (put key (.table .header inside) (erase key entries))
  | some _ => none

def openArrayTable (key : String) (entries : Entries) : Option Entries :=
  match entries.lookup key with
  | none => some (put key (.tables [[]]) entries)
  | some (.tables items) => some (put key (.tables ([] :: items)) entries)
  | some _ => none

end Entries

mutual

def Node.toValue : Node → Value
  | .value value => value
  | .table _ entries => .table (entriesToValues entries)
  | .tables items => .sequence (itemsToValues items).reverse

def entriesToValues : List (String × Node) → List (String × Value)
  | [] => []
  | (key, node) :: rest => (key, node.toValue) :: entriesToValues rest

def itemsToValues : List (List (String × Node)) → List Value
  | [] => []
  | entries :: rest => .table (entriesToValues entries) :: itemsToValues rest

end

end FrameTap.Toml
