import RangeTest.Calendar.Moment
import RangeTest.Text.Parts

namespace RangeTest

/-- Reads one to `width` digits, as many as there are. -/
def Moment.digits? (width : Nat) (s : List Char) : Option (Nat × List Char) :=
  let digits := (s.take width).takeWhile Char.isDigit
  if digits.isEmpty then none else some (Numeral.value 10 digits, s.drop digits.length)

/-- Reads a part of two digits or one; blanks may stand before it. -/
def Moment.part? (s : List Char) : Option (Nat × List Char) :=
  digits? 2 (Text.trimStart s)

/-- Reads a year of one to four digits, or with a sign of any number of digits. Blanks may stand
before it. -/
def Moment.year? (s : List Char) : Option (Int × List Char) :=
  match Text.trimStart s with
  | '-' :: rest => (digits? rest.length rest).map fun (n, more) => (-(n : Int), more)
  | '+' :: rest => (digits? rest.length rest).map fun (n, more) => ((n : Int), more)
  | rest => (digits? 4 rest).map fun (n, more) => ((n : Int), more)

/-- Reads one character that has to stand here. -/
def Moment.mark? (c : Char) : List Char → Option (List Char)
  | d :: rest => if c = d then some rest else none
  | [] => none

/-- Reads a fraction of a second, in nanoseconds: nothing, or a point and digits, of which those
after the ninth do not count. -/
def Moment.fraction? : List Char → Option (Nat × List Char)
  | '.' :: rest =>
    let digits := rest.takeWhile Char.isDigit
    let counted := digits.take 9
    if digits.isEmpty then none
    else some (Numeral.value 10 counted * Nat.pow 10 (9 - counted.length), rest.drop digits.length)
  | s => some (0, s)

/-- Reads a date and a time of day, such as `2019-12-11T10:20:30.123456`, and nothing after it. -/
def Moment.read? (s : List Char) : Option Moment := do
  let (year, s) ← year? s
  let s ← mark? '-' s
  let (month, s) ← part? s
  let s ← mark? '-' s
  let (day, s) ← part? s
  let s ← mark? 'T' s
  let (hour, s) ← part? s
  let s ← mark? ':' s
  let (minute, s) ← part? s
  let s ← mark? ':' s
  let (second, s) ← part? s
  let (nanosecond, s) ← fraction? s
  let moment : Moment := { year, month, day, hour, minute, second, nanosecond }
  if s.isEmpty && moment.isValid then some moment else none

end RangeTest
