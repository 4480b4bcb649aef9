import FrameTap.Toml.Text

set_option autoImplicit false

namespace FrameTap.Toml

def moreDigits (accept : Char → Bool) : List Char → Option (List Char × List Char)
  | '_' :: c :: rest =>
    if accept c then (moreDigits accept rest).map (fun (digits, rest) => (c :: digits, rest))
    else none
  | '_' :: [] => none
  | c :: rest =>
    if accept c then (moreDigits accept rest).map (fun (digits, rest) => (c :: digits, rest))
    else some ([], c :: rest)
  | [] => some ([], [])

def digitRun (accept : Char → Bool) : Scan (List Char) := do
  let first ← Scan.satisfying accept
  let rest ← moreDigits accept
  return first :: rest

def sign : Scan Bool := do
  match ← Scan.optionally (Scan.satisfying (fun c => c == '+' || c == '-')) with
  | some '-' => return true
  | _ => return false

def wholeDigits : Scan (List Char) := do
  match ← Scan.optionally (Scan.char '0') with
  | some () => return ['0']
  | none => digitRun Char.isDigit

def smallestInteger : Int := Int64.minValue.toInt

def largestInteger : Int := Int64.maxValue.toInt

def inRange (value : Int) : Scan Int :=
  if smallestInteger ≤ value ∧ value ≤ largestInteger then pure value else failure

def radixInteger (mark : List Char) (base : Nat) (accept : Char → Bool) : Scan Int := do
  Scan.text mark
  let digits ← digitRun accept
  inRange (digitsValue base digits)

def decimalInteger : Scan Int := do
  let negative ← sign
  let digits ← wholeDigits
  let value : Int := digitsValue 10 digits
  inRange (if negative then -value else value)

def isOctal (c : Char) : Bool := '0' ≤ c && c ≤ '7'

def isBinary (c : Char) : Bool := c == '0' || c == '1'

def integer : Scan Int := do
  let start ← Scan.optionally (Scan.char '0')
  let mark ← Scan.peek
  let prefixed := start.isSome && (mark == some 'x' || mark == some 'o' || mark == some 'b')
  if prefixed then
    radixInteger ['x'] 16 isHex <|> radixInteger ['o'] 8 isOctal <|> radixInteger ['b'] 2 isBinary
  else if start.isSome then
    return 0
  else
    decimalInteger

def nearestDouble (mantissa : Nat) (exponent : Int) : Float :=
  let magnitude : Int := (Nat.toDigits 10 mantissa).length + exponent
  if mantissa = 0 ∨ magnitude < -400 then 0
  else if 400 < magnitude then 1 / 0
  else if exponent < 0 then Float.ofScientific mantissa true exponent.natAbs
  else Float.ofScientific mantissa false exponent.natAbs

def fraction : Scan (List Char) := do
  Scan.char '.'
  digitRun Char.isDigit

def exponentPart : Scan Int := do
  let _ ← Scan.satisfying (fun c => c == 'e' || c == 'E')
  let negative ← sign
  let digits ← digitRun Char.isDigit
  let value : Int := digitsValue 10 digits
  return if negative then -value else value

/-- A fraction, an exponent or both. A number too large for a double is refused if it is
positive. -/
def decimalFloat : Scan Float := do
  let negative ← sign
  let whole ← wholeDigits
  let places ← Scan.optionally fraction
  let power ← Scan.optionally exponentPart
  if places.isNone && power.isNone then
    failure
  else
    let places := places.getD []
    let value := nearestDouble (digitsValue 10 (whole ++ places)) (power.getD 0 - places.length)
    if negative then return -value
    else if value == 1 / 0 then failure
    else return value

def specialFloat : Scan Float := do
  let negative ← sign
  let value ← (do Scan.text ['i', 'n', 'f']; return (1 / 0 : Float)) <|>
    (do Scan.text ['n', 'a', 'n']; return (0 / 0 : Float))
  return if negative then -value else value

def float : Scan Float := decimalFloat <|> specialFloat

end FrameTap.Toml
