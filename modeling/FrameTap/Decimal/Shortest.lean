/-!
The shortest decimal that reads back as a given double, in exact arithmetic. A double is
`mantissa * 2 ^ exponent`; every number between its two midpoints reads back as it, and the
midpoints themselves do if the mantissa is even. For one digit, then two, and so on, the value's
two neighbours on the grid of that many digits are tried; the nearer of two hits wins, the upper
one where both are as near.
-/

set_option autoImplicit false

namespace FrameTap.Decimal

structure Ratio where
  numerator : Nat
  denominator : Nat

def Ratio.le (a b : Ratio) : Bool :=
  a.numerator * b.denominator ≤ b.numerator * a.denominator

def Ratio.lt (a b : Ratio) : Bool :=
  a.numerator * b.denominator < b.numerator * a.denominator

def Ratio.scaled (base n : Nat) (exponent : Int) : Ratio :=
  if 0 ≤ exponent then { numerator := n * Nat.pow base exponent.natAbs, denominator := 1 }
  else { numerator := n, denominator := Nat.pow base exponent.natAbs }

structure Binary where
  mantissa : Nat
  exponent : Int
  atPower : Bool

def fractionSize : Nat := 4503599627370496

def signBit : Nat := 9223372036854775808

def Binary.ofBits (bits : Nat) : Binary :=
  let field : Nat := bits % signBit / fractionSize
  let fraction : Nat := bits % fractionSize
  if field = 0 then { mantissa := fraction, exponent := -1074, atPower := false }
  else
    { mantissa := fractionSize + fraction
      exponent := (field : Int) - 1075
      atPower := fraction = 0 ∧ 1 < field }

def Binary.value (binary : Binary) : Ratio := Ratio.scaled 2 binary.mantissa binary.exponent

def Binary.upper (binary : Binary) : Ratio :=
  Ratio.scaled 2 (2 * binary.mantissa + 1) (binary.exponent - 1)

def Binary.lower (binary : Binary) : Ratio :=
  if binary.atPower then Ratio.scaled 2 (4 * binary.mantissa - 1) (binary.exponent - 2)
  else Ratio.scaled 2 (2 * binary.mantissa - 1) (binary.exponent - 1)

def Binary.readsBack (binary : Binary) (candidate : Ratio) : Bool :=
  if binary.mantissa % 2 = 0 then binary.lower.le candidate && candidate.le binary.upper
  else binary.lower.lt candidate && candidate.lt binary.upper

structure Digits where
  digits : Nat
  exponent : Int

def Digits.value (decimal : Digits) : Ratio := Ratio.scaled 10 decimal.digits decimal.exponent

def floorOnGrid (value : Ratio) (exponent : Int) : Nat :=
  let unit := Ratio.scaled 10 1 exponent
  value.numerator * unit.denominator / (value.denominator * unit.numerator)

def distance (a b : Ratio) : Ratio where
  numerator :=
    let x := a.numerator * b.denominator
    let y := b.numerator * a.denominator
    (x - y) + (y - x)
  denominator := a.denominator * b.denominator

/-- The nearer of the value's two neighbours that read back; a tie goes up. -/
def tryGrid (binary : Binary) (exponent : Int) : Option Digits :=
  let below : Digits := { digits := floorOnGrid binary.value exponent, exponent }
  let above : Digits := { digits := below.digits + 1, exponent }
  match binary.readsBack below.value, binary.readsBack above.value with
  | true, true =>
    if (distance below.value binary.value).lt (distance above.value binary.value) then some below
    else some above
  | true, false => some below
  | false, true => some above
  | false, false => none

/-- The place of the first digit of a positive value, found from an estimate that is at most two
too high. -/
def firstPlace (value : Ratio) (estimate : Int) : Int :=
  if floorOnGrid value estimate ≠ 0 then estimate
  else if floorOnGrid value (estimate - 1) ≠ 0 then estimate - 1
  else estimate - 2

def tryGrids (binary : Binary) : Nat → Int → Option Digits
  | 0, _ => none
  | count + 1, exponent =>
    match tryGrid binary exponent with
    | some decimal => some decimal
    | none => tryGrids binary count (exponent - 1)

def shortest (binary : Binary) : Digits :=
  if binary.mantissa = 0 then { digits := 0, exponent := 0 }
  else
    let size : Int := Nat.log2 binary.mantissa + binary.exponent + 1
    let start := firstPlace binary.value (size * 30103 / 100000 + 1)
    (tryGrids binary 18 start).getD { digits := 0, exponent := 0 }

def positional (decimal : Digits) : String :=
  let digits := Nat.toDigits 10 decimal.digits
  if 0 ≤ decimal.exponent then
    String.ofList (digits ++ List.replicate decimal.exponent.natAbs '0')
  else
    let places := decimal.exponent.natAbs
    let padded := List.replicate (places + 1 - digits.length) '0' ++ digits
    let whole := padded.take (padded.length - places)
    let fraction := ((padded.drop (padded.length - places)).reverse.dropWhile (· == '0')).reverse
    if fraction.isEmpty then String.ofList whole
    else String.ofList (whole ++ '.' :: fraction)

def text (x : Float) : String :=
  if x.isNaN then "NaN"
  else
    let bits := x.toBits.toNat
    let sign := if signBit ≤ bits then "-" else ""
    if x.isInf then sign ++ "inf"
    else sign ++ positional (shortest (Binary.ofBits bits))

end FrameTap.Decimal
