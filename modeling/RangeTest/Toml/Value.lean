import RangeTest.Calendar.Moment
import RangeTest.Decimal.Literal

namespace RangeTest

/-- A value of TOML. Dates and times are recognised but not kept, since no setting is one. -/
inductive Toml where
  | string (text : String)
  | integer (n : Int)
  | float (x : Float)
  | boolean (b : Bool)
  | dateTime
  | array (items : List Toml)
  | table (entries : List (String × Toml))

/-- Characters that may stand in strings and comments, which are all but control characters; the
tab is the one that is allowed. -/
def Toml.isPrintable (c : Char) : Bool :=
  c == '\t' || (c.toNat ≥ 0x20 && c.toNat != 0x7F)

def Toml.isSpace (c : Char) : Bool :=
  c == ' ' || c == '\t'

def Toml.isBare (c : Char) : Bool :=
  c.isAlphanum || c == '-' || c == '_'

/-- Digits with single underscores between them, which do not count; at least one digit. -/
def Toml.digits? (isDigit : Char → Bool) : List Char → Option (List Char)
  | [] => none
  | [c] => if isDigit c then some [c] else none
  | c :: '_' :: rest => if isDigit c then (digits? isDigit rest).map (c :: ·) else none
  | c :: rest => if isDigit c then (digits? isDigit rest).map (c :: ·) else none

/-- A decimal number without a sign and without a zero in front. -/
def Toml.natural? (s : List Char) : Option (List Char) :=
  match digits? Char.isDigit s with
  | some ['0'] => some ['0']
  | some ('0' :: _) => none
  | digits => digits

/-- The numbers of a base other than ten. -/
def Toml.based? : List Char → Option Nat
  | '0' :: 'x' :: s =>
    (digits? (fun c => (Numeral.hexDigit? c).isSome) s).bind Numeral.hex?
  | '0' :: 'o' :: s => (digits? (fun c => c.isDigit && c ≤ '7') s).map (Numeral.value 8)
  | '0' :: 'b' :: s => (digits? (fun c => c == '0' || c == '1') s).map (Numeral.value 2)
  | _ => none

/-- A whole number of 64 bits. -/
def Toml.integer? (s : List Char) : Option Toml :=
  let (negative, size) := Numeral.unsign s
  let value : Option Int := match based? s with
    | some n => some n
    | none => (natural? size).map fun digits =>
      let n : Int := Numeral.value 10 digits
      if negative then -n else n
  match value with
  | some n =>
    if Int64.minValue.toInt ≤ n ∧ n ≤ Int64.maxValue.toInt then some (integer n) else none
  | none => none

/-- The exponent of a float without its letter. -/
def Toml.exponent? (s : List Char) : Option (List Char) :=
  let (negative, size) := Numeral.unsign s
  (digits? Char.isDigit size).map fun digits => (if negative then ['-'] else []) ++ digits

/-- A float with a fraction, an exponent or both. -/
def Toml.scientific? (s : List Char) : Option (List Char) := do
  let (mantissa, power) := s.span fun c => c != 'e' && c != 'E'
  let (whole, fraction) := mantissa.span (· != '.')
  let whole ← natural? whole
  let fraction ← match fraction with
    | [] => if power.isEmpty then none else some []
    | _ :: digits => (digits? Char.isDigit digits).map ('.' :: ·)
  let power ← match power with
    | [] => some []
    | _ :: exponent => (exponent? exponent).map ('e' :: ·)
  return whole ++ fraction ++ power

/-- A float; one that is too large to be told from infinity is refused. -/
def Toml.float? (s : List Char) : Option Toml := do
  let (negative, size) := Numeral.unsign s
  let sign := if negative then ['-'] else []
  if size = "inf".toList ∨ size = "nan".toList then
    (FloatText.read? (sign ++ size)).map float
  else
    let x ← FloatText.read? (sign ++ (← scientific? size))
    if x == 1.0 / 0.0 then none else some (float x)

/-- A number of exactly `width` digits and what follows it. -/
def Toml.exactly? (width : Nat) (s : List Char) : Option (Nat × List Char) :=
  let digits := s.take width
  if digits.length = width ∧ digits.all Char.isDigit then
    some (Numeral.value 10 digits, s.drop width)
  else none

/-- Two digits that stand for at most some number. -/
def Toml.upTo? (greatest : Nat) (s : List Char) : Option (List Char) := do
  let (n, rest) ← exactly? 2 s
  if n ≤ greatest then some rest else none

/-- One character that has to stand here. -/
def Toml.mark? (c : Char) : List Char → Option (List Char)
  | d :: rest => if c = d then some rest else none
  | [] => none

def Toml.date? (s : List Char) : Option (List Char) := do
  let (year, s) ← exactly? 4 s
  let (month, s) ← exactly? 2 (← mark? '-' s)
  let (day, s) ← exactly? 2 (← mark? '-' s)
  if 1 ≤ month ∧ month ≤ 12 ∧ 1 ≤ day ∧ day ≤ Moment.daysInMonth year month then some s else none

def Toml.time? (s : List Char) : Option (List Char) := do
  let s ← upTo? 23 s
  let s ← upTo? 59 (← mark? ':' s)
  let s ← upTo? 60 (← mark? ':' s)
  match s with
  | '.' :: c :: rest => if c.isDigit then some (rest.dropWhile Char.isDigit) else none
  | _ => some s

/-- Reads over nothing or the offset of a time zone. -/
def Toml.zone? : List Char → Option (List Char)
  | 'Z' :: rest => some rest
  | 'z' :: rest => some rest
  | '+' :: rest => do upTo? 59 (← mark? ':' (← upTo? 23 rest))
  | '-' :: rest => do upTo? 59 (← mark? ':' (← upTo? 23 rest))
  | s => some s

/-- The text is a date, a time of day, or both with or without a time zone. -/
def Toml.isDateTime (s : List Char) : Bool :=
  let rest := match date? s with
    | some [] => some []
    | some (c :: rest) =>
      if c = 'T' ∨ c = 't' ∨ c = ' ' then (time? rest).bind zone? else none
    | none => time? s
  rest == some []

/-- A value that is written without quotes or brackets. -/
def Toml.scalarValue? (s : List Char) : Option Toml :=
  if s = "true".toList then some (boolean true)
  else if s = "false".toList then some (boolean false)
  else if isDateTime s then some dateTime
  else integer? s <|> float? s

end RangeTest
