namespace RangeTest

/-- The exact value of a finite float, `mantissa * 2 ^ exponent` with a sign. -/
structure Binary64 where
  negative : Bool
  mantissa : Nat
  exponent : Int
  /-- The gap to the float below is half the gap to the float above. -/
  narrowBelow : Bool

/-- A float as arithmetic sees it. -/
inductive FloatValue where
  | nan
  | infinite (negative : Bool)
  | finite (value : Binary64)

/-- Reads sign, exponent and fraction out of the 64 bits of a float. -/
def FloatValue.ofFloat (x : Float) : FloatValue :=
  let bits := x.toBits.toNat
  let negative := bits / Nat.pow 2 63 == 1
  let scale : Nat := bits / Nat.pow 2 52 % Nat.pow 2 11
  let fraction : Nat := bits % Nat.pow 2 52
  if scale == Nat.pow 2 11 - 1 then if fraction == 0 then infinite negative else nan
  else if scale == 0 then finite ⟨negative, fraction, -1074, false⟩
  else finite ⟨negative, Nat.pow 2 52 + fraction, (scale : Int) - 1075, fraction == 0 && 1 < scale⟩

/-- A decimal number, `digits * 10 ^ exponent`. -/
structure Decimal where
  digits : Nat
  exponent : Int
  deriving DecidableEq, Repr

/-- `n * 2 ^ q` as a decimal. It is exact: half of a unit is five of the next smaller ones. -/
def Decimal.ofBinary (n : Nat) : Int → Decimal
  | .ofNat q => ⟨n * Nat.pow 2 q, 0⟩
  | .negSucc q => ⟨n * Nat.pow 5 (q + 1), -(q + 1 : Int)⟩

/-- The exact decimal value of a finite float, its sign left out. -/
def Binary64.exact (x : Binary64) : Decimal :=
  .ofBinary x.mantissa x.exponent

end RangeTest
