import RangeTest.Decimal.Binary64

namespace RangeTest

/-- Which neighbour a number takes that lies exactly halfway between two. -/
inductive Tie where
  | toEven
  | away

/-- The quotient rounded to the nearest whole number. -/
def Tie.roundDiv (tie : Tie) (num den : Nat) : Nat :=
  let below := num / den
  match compare (2 * (num % den)) den, tie with
  | .lt, _ => below
  | .gt, _ => below + 1
  | .eq, .away => below + 1
  | .eq, .toEven => if below % 2 == 0 then below else below + 1

/-- The reals that round to one float, on a decimal grid fine enough for both ends. -/
structure RoundingSpan where
  low : Nat
  value : Nat
  high : Nat
  closed : Bool
  exponent : Int

/-- The span reaches half way to either neighbour, and an even mantissa owns both ends. -/
def Binary64.span (x : Binary64) : RoundingSpan :=
  let quarter := x.exponent - 2
  let grid (n : Nat) := (Decimal.ofBinary n quarter).digits
  { low := grid (4 * x.mantissa - if x.narrowBelow then 1 else 2)
    value := grid (4 * x.mantissa)
    high := grid (4 * x.mantissa + 2)
    closed := x.mantissa % 2 == 0
    exponent := (Decimal.ofBinary 0 quarter).exponent }

def RoundingSpan.contains (s : RoundingSpan) (n : Nat) : Bool :=
  if s.closed then s.low ≤ n && n ≤ s.high else s.low < n && n < s.high

/-- The multiple of `10 ^ j` in the span that is nearest to the value, as a number of such steps.
If the span holds any multiple, it holds a neighbour of the value. -/
def RoundingSpan.step? (s : RoundingSpan) (tie : Tie) (j : Nat) : Option Nat :=
  let step := Nat.pow 10 j
  let below := s.value / step
  match s.contains (below * step), s.contains ((below + 1) * step) with
  | true, true => some (tie.roundDiv s.value step)
  | true, false => some below
  | false, true => some (below + 1)
  | false, false => none

/-- Tries steps of `10 ^ j` and then smaller ones. The value itself ends the search. -/
def RoundingSpan.search (s : RoundingSpan) (tie : Tie) : Nat → Decimal
  | 0 => ⟨s.value, s.exponent⟩
  | j + 1 =>
    match s.step? tie (j + 1) with
    | some n => ⟨n, s.exponent + (j + 1 : Nat)⟩
    | none => s.search tie j

/-- The decimal with the fewest digits that rounds to a float other than zero, and of several such
the nearest. -/
def Binary64.shortest (tie : Tie) (x : Binary64) : Decimal :=
  x.span.search tie (Nat.toDigits 10 x.span.value).length

end RangeTest
