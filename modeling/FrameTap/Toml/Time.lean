import FrameTap.Toml.Text

set_option autoImplicit false

namespace FrameTap.Toml

abbrev OffsetRule := Nat → Nat → Bool

def clockOffset : OffsetRule := fun hours minutes => hours ≤ 23 && minutes ≤ 59

def minutesPerDay : Nat := 1440

def dayOffset : OffsetRule := fun hours minutes => hours * 60 + minutes ≤ minutesPerDay

def boundedDigits (count low high : Nat) : Scan (List Char) := do
  let digits ← Scan.exactly count Char.isDigit
  let value := digitsValue 10 digits
  if low ≤ value ∧ value ≤ high then return digits else failure

def isLeapYear (year : Nat) : Bool := year % 4 = 0 ∧ (year % 100 ≠ 0 ∨ year % 400 = 0)

def daysInMonth (year month : Nat) : Nat :=
  if month = 2 then (if isLeapYear year then 29 else 28)
  else if month = 4 ∨ month = 6 ∨ month = 9 ∨ month = 11 then 30
  else 31

def date : Scan (List Char) := do
  let year ← Scan.exactly 4 Char.isDigit
  Scan.char '-'
  let month ← boundedDigits 2 1 12
  Scan.char '-'
  let day ← boundedDigits 2 1 (daysInMonth (digitsValue 10 year) (digitsValue 10 month))
  return year ++ ['-'] ++ month ++ ['-'] ++ day

def dropTrailingZeros (digits : List Char) : List Char :=
  (digits.reverse.dropWhile (· == '0')).reverse

def secondFraction : Scan (List Char) := do
  Scan.char '.'
  let digits ← Scan.takeWhile Char.isDigit
  if digits.isEmpty then
    failure
  else
    let kept := dropTrailingZeros (digits.take 9)
    return if kept.isEmpty then [] else '.' :: kept

def timeOfDay : Scan (List Char) := do
  let hour ← boundedDigits 2 0 23
  Scan.char ':'
  let minute ← boundedDigits 2 0 59
  Scan.char ':'
  let second ← boundedDigits 2 0 60
  let fraction ← Scan.optionally secondFraction
  return hour ++ [':'] ++ minute ++ [':'] ++ second ++ fraction.getD []

def twoDigits (n : Nat) : List Char := [Nat.digitChar (n / 10), Nat.digitChar (n % 10)]

/-- An offset of nothing is never negative; an hour has sixty minutes. -/
def offset (allows : OffsetRule) : Scan (List Char) :=
  (do
    let _ ← Scan.satisfying (fun c => c == 'Z' || c == 'z')
    return ['Z']) <|>
  (do
    let mark ← Scan.satisfying (fun c => c == '+' || c == '-')
    let hour ← Scan.exactly 2 Char.isDigit
    Scan.char ':'
    let minute ← Scan.exactly 2 Char.isDigit
    let hours := digitsValue 10 hour
    let minutes := digitsValue 10 minute
    let total := hours * 60 + minutes
    if allows hours minutes then
      return (if total = 0 then '+' else mark) ::
        twoDigits (total / 60) ++ [':'] ++ twoDigits (total % 60)
    else
      failure)

def dateTime (allows : OffsetRule) : Scan String := do
  let dated : Scan (List Char) := do
    let day ← date
    let clock ← Scan.optionally do
      let _ ← Scan.satisfying (fun c => c == 'T' || c == 't' || c == ' ')
      let time ← timeOfDay
      let zone ← Scan.optionally (offset allows)
      return 'T' :: time ++ zone.getD []
    return day ++ clock.getD []
  let characters ← dated <|> timeOfDay
  return String.ofList characters

def dateOfText? (text : String) : Option String := do
  let reader : Scan String := do
    let date ← dateTime dayOffset
    Scan.atEnd
    return date
  let (date, _) ← reader text.toList
  return date

end FrameTap.Toml
