import FrameTap.Toml.Time
import FrameTap.Settings.Layers

/-!
Dates in a tree of values. A table whose first key is reserved stands for the date or time that
the text under that key says, whatever else is in it. Dates without quotes are put down in the
same way, so one pass over the finished tree finds them all.
-/

set_option autoImplicit false

namespace FrameTap.Toml

def dateKey : String := "$__toml_private_datetime"

def dated (text : String) : Value := .table [(dateKey, .text text)]

def standsForDate : List (String × Value) → Bool
  | (key, _) :: _ => key = dateKey
  | [] => false

def dateIn? : List (String × Value) → Option String
  | (_, .text text) :: _ => dateOfText? text
  | _ => none

mutual

def withDates? : Value → Option Value
  | .table entries =>
    if standsForDate entries then (dateIn? entries).map .text
    else (entriesWithDates? entries).map .table
  | .sequence items => (itemsWithDates? items).map .sequence
  | value => some value

def entriesWithDates? : List (String × Value) → Option (List (String × Value))
  | [] => some []
  | (key, value) :: rest => do
    let value ← withDates? value
    let rest ← entriesWithDates? rest
    return (key, value) :: rest

def itemsWithDates? : List Value → Option (List Value)
  | [] => some []
  | value :: rest => do
    let value ← withDates? value
    let rest ← itemsWithDates? rest
    return value :: rest

end

end FrameTap.Toml
