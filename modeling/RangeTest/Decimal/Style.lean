import RangeTest.Decimal.Shortest
import RangeTest.Numeral

namespace RangeTest

/-- How the fewest digits of a float are laid out. -/
structure FloatStyle where
  tie : Tie
  /-- The positions of the decimal point that are written without an exponent, both ends included;
  every position where there is none. -/
  plain : Option (Int × Int)
  /-- What follows the digits of a whole number. -/
  whole : String

/-- Digits with the decimal point after the first `point` of them. -/
def FloatStyle.positional (style : FloatStyle) (digits : List Char) (point : Int) : List Char :=
  let n := digits.length
  if (n : Int) ≤ point then
    digits ++ List.replicate (point - n).toNat '0' ++ style.whole.toList
  else if 0 < point then
    digits.take point.toNat ++ '.' :: digits.drop point.toNat
  else
    '0' :: '.' :: List.replicate (-point).toNat '0' ++ digits

/-- Digits with the decimal point after the first of them, and the exponent that makes up for it. -/
def FloatStyle.scientific (digits : List Char) (point : Int) : List Char :=
  let tail := digits.drop 1
  digits.take 1 ++ (if tail.isEmpty then [] else '.' :: tail) ++ 'e' :: Numeral.writeInt (point - 1)

/-- Writes a finite float; zero keeps its sign. -/
def FloatStyle.writeFinite (style : FloatStyle) (x : Binary64) : List Char :=
  let sign := if x.negative then ['-'] else []
  if x.mantissa == 0 then sign ++ style.positional ['0'] 1
  else
    let shortest := x.shortest style.tie
    let digits := Numeral.write shortest.digits
    let point := digits.length + shortest.exponent
    let isPlain := match style.plain with
      | some (least, greatest) => least ≤ point && point ≤ greatest
      | none => true
    sign ++ if isPlain then style.positional digits point else scientific digits point

/-- Numbers in tables and prompts: the fewest digits, never an exponent, no point in whole
numbers, a half away from zero. -/
def FloatStyle.table : FloatStyle where
  tie := .away
  plain := none
  whole := ""

/-- Numbers in JSON: an exponent outside of `1e-5` to `1e16`, a half to the even digit, and whole
numbers end in `.0`. -/
def FloatStyle.json : FloatStyle where
  tie := .toEven
  plain := some (-4, 16)
  whole := ".0"

def FloatText.table (x : Float) : String :=
  match FloatValue.ofFloat x with
  | .nan => "NaN"
  | .infinite negative => if negative then "-inf" else "inf"
  | .finite value => String.ofList (FloatStyle.table.writeFinite value)

/-- The text of a float in JSON, which has no number for what is not finite. -/
def FloatText.json (x : Float) : String :=
  match FloatValue.ofFloat x with
  | .finite value => String.ofList (FloatStyle.json.writeFinite value)
  | _ => "null"

/-- A finite float with two places, its exact value rounded and a half to the even digit. -/
def Binary64.twoPlaces (x : Binary64) : List Char :=
  let hundredths := match x.exact with
    | ⟨n, .ofNat e⟩ => n * Nat.pow 10 (e + 2)
    | ⟨n, .negSucc e⟩ => Tie.toEven.roundDiv (n * 100) (Nat.pow 10 (e + 1))
  let sign := if x.negative then ['-'] else []
  sign ++ Numeral.write (hundredths / 100) ++ '.' :: Numeral.writePadded 2 (hundredths % 100)

def FloatText.report (x : Float) : String :=
  match FloatValue.ofFloat x with
  | .nan => "NaN"
  | .infinite negative => if negative then "-inf" else "inf"
  | .finite value => String.ofList value.twoPlaces

end RangeTest
