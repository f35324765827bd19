namespace RangeTest

/-- The number that digits of a base up to ten stand for, the most significant digit first. -/
def Numeral.value (base : Nat) (digits : List Char) : Nat :=
  digits.foldl (fun n c => base * n + (c.toNat - '0'.toNat)) 0

/-- Reads one or more decimal digits and nothing else. -/
def Numeral.natural? (s : List Char) : Option Nat :=
  if s.isEmpty then none else if s.all Char.isDigit then some (value 10 s) else none

/-- Reads a decimal number of 32 bits. -/
def Numeral.unsigned? (s : List Char) : Option UInt32 :=
  match natural? s with
  | some n => if n < UInt32.size then some (UInt32.ofNat n) else none
  | none => none

/-- Takes one sign off the front; the flag says whether it was a minus. -/
def Numeral.unsign : List Char → Bool × List Char
  | '-' :: rest => (true, rest)
  | '+' :: rest => (false, rest)
  | s => (false, s)

/-- Reads a whole number with at most one sign. -/
def Numeral.integer? (s : List Char) : Option Int :=
  let (negative, digits) := unsign s
  (natural? digits).map fun n => if negative then -(n : Int) else n

/-- Reads a decimal number of 32 bits that may carry a sign. -/
def Numeral.signed? (s : List Char) : Option Int32 :=
  match integer? s with
  | some z =>
    if Int32.minValue.toInt ≤ z ∧ z ≤ Int32.maxValue.toInt then some (Int32.ofInt z) else none
  | none => none

/-- The value of a hexadecimal digit of either case. -/
def Numeral.hexDigit? (c : Char) : Option Nat :=
  if c.isDigit then some (c.toNat - '0'.toNat)
  else if 'a' ≤ c ∧ c ≤ 'f' then some (c.toNat - 'a'.toNat + 10)
  else if 'A' ≤ c ∧ c ≤ 'F' then some (c.toNat - 'A'.toNat + 10)
  else none

/-- Reads one or more hexadecimal digits and nothing else. -/
def Numeral.hex? (s : List Char) : Option Nat :=
  if s.isEmpty then none
  else (s.mapM hexDigit?).map (List.foldl (fun n d => 16 * n + d) 0)

def Numeral.write (n : Nat) : List Char :=
  Nat.toDigits 10 n

/-- Writes a number in decimal, a minus in front of a negative one. -/
def Numeral.writeInt : Int → List Char
  | .ofNat n => write n
  | .negSucc n => '-' :: write (n + 1)

/-- Writes a number in decimal with zeros in front up to a width. -/
def Numeral.writePadded (width n : Nat) : List Char :=
  List.replicate (width - (write n).length) '0' ++ write n

end RangeTest
