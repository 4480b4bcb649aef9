import FrameTap.Settings.Basic
import FrameTap.Decimal.Shortest
import FrameTap.Settings.Layers

set_option autoImplicit false

namespace FrameTap

structure Conventions where
  toUInt64? : Value → Option UInt64
  toUInt32? : Value → Option UInt32
  toText? : Value → Option String
  toName? : List String → Value → Option String
  allowsSpareItems : Bool

namespace Conventions

namespace Strict

def toNat? (bound : Nat) : Value → Option Nat
  | .integer n => if 0 ≤ n ∧ n.natAbs < bound then some n.natAbs else none
  | _ => none

def toText? : Value → Option String
  | .text value => some value
  | _ => none

def toName? (names : List String) : Value → Option String
  | .text value => names.find? (· = value)
  | .table [(key, .null)] => names.find? (· = key)
  | _ => none

end Strict

/-- A name stands for itself, or as the key of a table that has no other and no value. -/
def strict : Conventions where
  toUInt64? value := (Strict.toNat? UInt64.size value).map UInt64.ofNat
  toUInt32? value := (Strict.toNat? UInt32.size value).map UInt32.ofNat
  toText? := Strict.toText?
  toName? := Strict.toName?
  allowsSpareItems := false

namespace Lenient

def naturalOfText? (text : String) : Option Nat :=
  let digits := match text.toList with
    | '+' :: digits => digits
    | digits => digits
  if digits.isEmpty ∨ ¬ digits.all Char.isDigit then none
  else
    let value := digits.foldl (fun value c => value * 10 + (c.toNat - 48)) 0
    if value < UInt64.size then some value else none

def wordOfText? (text : String) : Option Nat :=
  let lower := text.toLower
  if lower = "true" ∨ lower = "on" ∨ lower = "yes" then some 1
  else if lower = "false" ∨ lower = "off" ∨ lower = "no" then some 0
  else naturalOfText? text

/-- A fraction is rounded, a half away from zero, and held inside the range of the type. -/
def toUInt64? : Value → Option UInt64
  | .integer n => (Strict.toNat? UInt64.size (.integer n)).map UInt64.ofNat
  | .real x => some x.round.toUInt64
  | .boolean value => some (if value then 1 else 0)
  | .text value => (wordOfText? value).map UInt64.ofNat
  | _ => none

def toUInt32? (value : Value) : Option UInt32 := do
  let number ← toUInt64? value
  if number.toNat < UInt32.size then some number.toUInt32 else none

def toText? : Value → Option String
  | .text value => some value
  | .boolean value => some (if value then "true" else "false")
  | .integer n => some (toString n)
  | .real x => some (Decimal.text x)
  | _ => none

def findName? (names : List String) (key : String) : Option String :=
  names.find? (fun name => name.toLower = key.toLower)

def toName? (names : List String) : Value → Option String
  | .text value => findName? names value
  | .table [(key, _)] => findName? names key
  | _ => none

end Lenient

def lenient : Conventions where
  toUInt64? := Lenient.toUInt64?
  toUInt32? := Lenient.toUInt32?
  toText? := Lenient.toText?
  toName? := Lenient.toName?
  allowsSpareItems := true

end Conventions

abbrev Fields := String → Option Value

namespace Value

/-- A table gives fields by name, a list by place; unknown names count for nothing. -/
def fields? (conventions : Conventions) (names : List String) : Value → Option Fields
  | .table entries => some (fun name => entries.lookup name)
  | .sequence items =>
    if items.length ≤ names.length ∨ conventions.allowsSpareItems then
      some (fun name => (names.zip items).lookup name)
    else
      none
  | _ => none

end Value

/-- A field that is not there has its default; one that cannot be read spoils the record. -/
def Fields.read {α : Type} (fields : Fields) (name : String) (convert : Value → Option α)
    (default : α) : Option α :=
  match fields name with
  | none => some default
  | some value => convert value

namespace Conventions

def optionally {α : Type} (convert : Value → Option α) : Value → Option (Option α)
  | .null => some none
  | value => (convert value).map some

end Conventions

namespace ExtractMode

def names : List String := ["latest", "all_new"]

def name : ExtractMode → String
  | .latest => "latest"
  | .allNew => "all_new"

def ofName? : String → Option ExtractMode
  | "latest" => some .latest
  | "all_new" => some .allNew
  | _ => none

def read? (conventions : Conventions) (value : Value) : Option ExtractMode :=
  (conventions.toName? names value).bind ofName?

end ExtractMode

def ReceiverSettings.read? (conventions : Conventions) (value : Value) :
    Option ReceiverSettings := do
  let default : ReceiverSettings := {}
  let fields ← value.fields? conventions
    ["region_name", "event_name", "shm_dir", "poll_interval_ms"]
  let optionalText := Conventions.optionally conventions.toText?
  return {
    regionName := ← fields.read "region_name" conventions.toText? default.regionName
    eventName := ← fields.read "event_name" optionalText default.eventName
    shmDir := ← fields.read "shm_dir" optionalText default.shmDir
    pollIntervalMs := ← fields.read "poll_interval_ms" conventions.toUInt64? default.pollIntervalMs }

def DemoSettings.read? (conventions : Conventions) (value : Value) : Option DemoSettings := do
  let default : DemoSettings := {}
  let fields ← value.fields? conventions
    ["connect_attempts", "retry_interval_ms", "wait_timeout_ms", "mode", "screenshot_every",
     "screenshot_dir"]
  return {
    connectAttempts :=
      ← fields.read "connect_attempts" conventions.toUInt32? default.connectAttempts
    retryIntervalMs :=
      ← fields.read "retry_interval_ms" conventions.toUInt64? default.retryIntervalMs
    waitTimeoutMs := ← fields.read "wait_timeout_ms" conventions.toUInt64? default.waitTimeoutMs
    mode := ← fields.read "mode" (ExtractMode.read? conventions) default.mode
    screenshotEvery :=
      ← fields.read "screenshot_every" conventions.toUInt64? default.screenshotEvery
    screenshotDir := ← fields.read "screenshot_dir" conventions.toText? default.screenshotDir }

def Settings.read? (conventions : Conventions) (value : Value) : Option Settings := do
  let fields ← value.fields? conventions ["receiver", "demo"]
  return {
    receiver := ← fields.read "receiver" (ReceiverSettings.read? conventions) {}
    demo := ← fields.read "demo" (DemoSettings.read? conventions) {} }

def Protocol.read? (value : Value) : Option Protocol := do
  let found ← Conventions.strict.toName? [Protocol.single.name, Protocol.ring.name] value
  return if found = Protocol.single.name then .single else .ring

def PixelFormat.read? : Value → Option PixelFormat
  | .table [("Other", tag)] => (Conventions.strict.toUInt32? tag).map .other
  | value => (Conventions.strict.toName? ["Bgra32"] value).map (fun _ => .bgra32)

end FrameTap
