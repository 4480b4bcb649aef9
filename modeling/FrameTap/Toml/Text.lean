import FrameTap.Toml.Scan

set_option autoImplicit false

namespace FrameTap.Toml

def hexValue (c : Char) : Option Nat :=
  if '0' ≤ c ∧ c ≤ '9' then some (c.toNat - 48)
  else if 'a' ≤ c ∧ c ≤ 'f' then some (c.toNat - 87)
  else if 'A' ≤ c ∧ c ≤ 'F' then some (c.toNat - 55)
  else none

def isHex (c : Char) : Bool := (hexValue c).isSome

def digitsValue (base : Nat) (digits : List Char) : Nat :=
  digits.foldl (fun value c => value * base + (hexValue c).getD 0) 0

def codePoint (count : Nat) : Scan Char := do
  let digits ← Scan.exactly count isHex
  let value := digitsValue 16 digits
  if value.isValidChar then return Char.ofNat value else failure

def escapeSequence : Scan Char := do
  let kind ← Scan.satisfying (fun _ => true)
  match kind with
  | 'b' => return '\x08'
  | 't' => return '\t'
  | 'n' => return '\n'
  | 'f' => return '\x0c'
  | 'r' => return '\r'
  | '"' => return '"'
  | '\\' => return '\\'
  | 'u' => codePoint 4
  | 'U' => codePoint 8
  | _ => failure

def escaped : Scan (List Char) := do
  Scan.char '\\'
  let c ← escapeSequence
  return [c]

/-- A backslash at the end of a line takes away all blanks and line ends that follow. -/
def continuation : Scan (List Char) := do
  Scan.char '\\'
  blanks
  lineEnd
  let _ ← Scan.many (lineEnd <|> (do let _ ← Scan.satisfying isBlank))
  return []

def foldedLineEnd : Scan (List Char) := do
  lineEnd
  return ['\n']

def plainExcept (excluded : List Char) : Scan (List Char) := do
  let taken ← Scan.takeWhile (fun c => isPrintable c && !excluded.contains c)
  if taken.isEmpty then failure else return taken

def basicString : Scan String := do
  Scan.char '"'
  let parts ← Scan.many (plainExcept ['"', '\\'] <|> escaped)
  Scan.char '"'
  return String.ofList parts.flatten

def literalString : Scan String := do
  Scan.char '\''
  let taken ← Scan.takeWhile (fun c => isPrintable c && c != '\'')
  Scan.char '\''
  return String.ofList taken

def innerQuotes (quote : Char) : Scan (List Char) := fun input =>
  let (run, rest) := input.span (· == quote)
  if run.length = 1 ∨ run.length = 2 then some (run, rest) else none

/-- Three quotes end the string; up to two before them belong to it. -/
def closingQuotes (quote : Char) : Scan (List Char) := fun input =>
  let (run, rest) := input.span (· == quote)
  if 3 ≤ run.length ∧ run.length ≤ 5 then some (run.drop 3, rest) else none

def multiline (quote : Char) (content : Scan (List Char)) : Scan String := do
  Scan.text [quote, quote, quote]
  let _ ← Scan.optionally lineEnd
  let parts ← Scan.many (content <|> innerQuotes quote)
  let last ← closingQuotes quote
  return String.ofList (parts.flatten ++ last)

def multilineBasicString : Scan String :=
  multiline '"' (plainExcept ['"', '\\'] <|> foldedLineEnd <|> continuation <|> escaped)

def multilineLiteralString : Scan String :=
  multiline '\'' (plainExcept ['\''] <|> foldedLineEnd)

def string : Scan String :=
  multilineBasicString <|> basicString <|> multilineLiteralString <|> literalString

end FrameTap.Toml
