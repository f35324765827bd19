import RangeTest.Toml.Quoted
import RangeTest.Toml.Value

namespace RangeTest

/-- Reads something off the front of a text; the state is what is left of the text. -/
abbrev Toml.Scan := StateT (List Char) Option

namespace Toml

def peek? : Scan (Option Char) := do
  return (← get).head?

def skip : Scan Unit :=
  modify (·.drop 1)

/-- Takes one character that has to stand here. -/
def expect (c : Char) : Scan Unit := do
  if (← peek?) = some c then skip else failure

/-- Takes the blanks up to the next character of the line. -/
def spaces : Scan Unit :=
  modify (·.dropWhile isSpace)

/-- Reads over blanks, line ends and comments. The flag is set within a comment. -/
def overFiller : Bool → List Char → Option (List Char)
  | _, [] => some []
  | false, '#' :: rest => overFiller true rest
  | true, '\n' :: rest => overFiller false rest
  | true, '\r' :: '\n' :: rest => overFiller false rest
  | true, c :: rest => if isPrintable c then overFiller true rest else none
  | false, '\r' :: '\n' :: rest => overFiller false rest
  | false, c :: rest =>
    if isSpace c || c == '\n' then overFiller false rest else some (c :: rest)

/-- Takes blanks, line ends and comments. -/
def filler : Scan Unit := do
  set (← overFiller false (← get))

/-- Takes what may stand at the end of a line: blanks, a comment and the line end itself, which the
last line does not need. -/
def lineEnd : Scan Unit := do
  spaces
  if (← peek?) = some '#' then
    let (comment, rest) := (← get).span fun c => c != '\n' && c != '\r'
    if comment.all isPrintable then set rest else failure
  match ← get with
  | [] => return
  | '\n' :: rest => set rest
  | '\r' :: '\n' :: rest => set rest
  | _ => failure

/-- A part of a key, in quotes or bare. -/
def keyPart : Scan String := do
  let s ← get
  match quotedLine? s with
  | some (text, rest) =>
    set rest
    return String.ofList text
  | none =>
    let (bare, rest) := s.span isBare
    if bare.isEmpty then failure
    set rest
    return String.ofList bare

/-- The parts of a key with points between them. There is one round for each part. -/
def keyParts : Nat → Scan (List String)
  | 0 => failure
  | rounds + 1 => do
    spaces
    let part ← keyPart
    spaces
    if (← peek?) = some '.' then
      skip
      return part :: (← keyParts rounds)
    else return [part]

/-- How deep values nest at most, and how many parts a key has at most. -/
def maxDepth : Nat := 79

def key : Scan (List String) := do
  let parts ← keyParts ((← get).length + 1)
  if maxDepth < parts.length then failure
  return parts

/-- A value without quotes and brackets. A blank may stand between a date and a time. -/
def bareValue : Scan Toml := do
  let isPart (c : Char) : Bool := isBare c || c == '+' || c == '.' || c == ':'
  let (word, rest) := (← get).span isPart
  let (word, rest) := match date? word, rest with
    | some [], ' ' :: c :: more =>
      if c.isDigit then
        let (time, rest) := (c :: more).span isPart
        (word ++ ' ' :: time, rest)
      else (word, rest)
    | _, _ => (word, rest)
  let value ← scalarValue? word
  set rest
  return value

/-- The items of an array after its opening bracket. There is one round for each item. -/
def items (value : Scan Toml) : Nat → Scan (List Toml)
  | 0 => failure
  | rounds + 1 => do
    filler
    if (← peek?) = some ']' then
      skip
      return []
    let item ← value
    filler
    if (← peek?) = some ',' then
      skip
      return item :: (← items value rounds)
    expect ']'
    return [item]

/-- The entries of a table in braces after the first of them was announced. There is one round for
each entry. -/
def pairs (value : Scan Toml) : Nat → Scan (List (List String × Toml))
  | 0 => failure
  | rounds + 1 => do
    let path ← key
    expect '='
    spaces
    let entry ← value
    spaces
    if (← peek?) = some ',' then
      skip
      return (path, entry) :: (← pairs value rounds)
    expect '\x7d'
    return [(path, entry)]

end Toml

end RangeTest
