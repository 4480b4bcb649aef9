set_option autoImplicit false

namespace FrameTap.Toml

abbrev Scan := StateT (List Char) Option

namespace Scan

variable {α β : Type}

def satisfying (accept : Char → Bool) : Scan Char := fun input =>
  match input with
  | c :: rest => if accept c then some (c, rest) else none
  | [] => none

def char (c : Char) : Scan Unit := do
  let _ ← satisfying (· == c)

def text (expected : List Char) : Scan Unit := fun input =>
  if expected.isPrefixOf input then some ((), input.drop expected.length) else none

def takeWhile (accept : Char → Bool) : Scan (List Char) := fun input => some (input.span accept)

def peek : Scan (Option Char) := fun input => some (input.head?, input)

def atEnd : Scan Unit := fun input => if input.isEmpty then some ((), input) else none

def optionally (reader : Scan α) : Scan (Option α) :=
  (do let value ← reader; return some value) <|> pure none

def repeated (reader : Scan α) : Nat → Scan (List α)
  | 0 => return []
  | limit + 1 => do
    match ← optionally reader with
    | none => return []
    | some value =>
      let rest ← repeated reader limit
      return value :: rest

def many (reader : Scan α) : Scan (List α) := fun input => repeated reader input.length input

def separated (reader : Scan α) (separator : Scan β) : Scan (List α) := do
  let first ← reader
  let rest ← many (do let _ ← separator; reader)
  return first :: rest

def exactly (count : Nat) (accept : Char → Bool) : Scan (List Char) := fun input =>
  let taken := input.take count
  if taken.length = count ∧ taken.all accept then some (taken, input.drop count) else none

end Scan

def isBlank (c : Char) : Bool := c == ' ' || c == '\t'

def isPrintable (c : Char) : Bool := c == '\t' || (' ' ≤ c && c ≤ '~') || '\x80' ≤ c

def isBare (c : Char) : Bool := c.isAlphanum || c == '_' || c == '-'

def blanks : Scan Unit := do
  let _ ← Scan.takeWhile isBlank

def lineEnd : Scan Unit := Scan.text ['\n'] <|> Scan.text ['\r', '\n']

def comment : Scan Unit := do
  Scan.char '#'
  let _ ← Scan.takeWhile isPrintable

def restOfLine : Scan Unit := do
  blanks
  let _ ← Scan.optionally comment
  lineEnd <|> Scan.atEnd

def filler : Scan Unit := do
  let step : Scan Unit := do
    let _ ← Scan.optionally comment
    lineEnd
    blanks
  blanks
  let _ ← Scan.many step

end FrameTap.Toml
