import RangeTest.Numeral

namespace RangeTest

/-- Drops a leading run of digits and returns it with the rest. -/
def Numeral.spanDigits (s : List Char) : List Char × List Char :=
  s.span Char.isDigit

/-- The exponent part of a number: nothing, or `e` and a whole number. -/
def FloatText.exponent? : List Char → Option Int
  | [] => some 0
  | c :: rest => if c = 'e' ∨ c = 'E' then Numeral.integer? rest else none

/-- The float nearest to a number with some digits, the last of which counts for `10 ^ exponent`.
Numbers far beyond all floats are not worked out. -/
def FloatText.nearest (digits : List Char) (exponent : Int) : Float :=
  let significant := digits.dropWhile (· == '0')
  let magnitude : Int := significant.length + exponent
  if significant.isEmpty || magnitude < -400 then 0.0
  else if 400 < magnitude then 1.0 / 0.0
  else Float.ofScientific (Numeral.value 10 significant) (exponent < 0) exponent.natAbs

/-- A number without a sign: digits with at most one point among or beside them, at least one
digit, and an optional exponent. The nearest float stands for it. -/
def FloatText.readUnsigned? (s : List Char) : Option Float :=
  let (whole, afterWhole) := Numeral.spanDigits s
  let (fraction, rest) := match afterWhole with
    | '.' :: more => Numeral.spanDigits more
    | _ => ([], afterWhole)
  if whole.isEmpty && fraction.isEmpty then none
  else
    (FloatText.exponent? rest).map fun exponent =>
      FloatText.nearest (whole ++ fraction) (exponent - fraction.length)

/-- Reads a float: a number, an infinity or `nan` in any case, with at most one sign. -/
def FloatText.read? (s : List Char) : Option Float :=
  let (negative, rest) := Numeral.unsign s
  let size := match String.ofList (rest.map Char.toLower) with
    | "inf" | "infinity" => some (1.0 / 0.0)
    | "nan" => some (0.0 / 0.0)
    | _ => FloatText.readUnsigned? rest
  size.map fun x => if negative then -x else x

end RangeTest
