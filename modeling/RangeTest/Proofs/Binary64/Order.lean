import RangeTest.Proofs.Binary64.Quotient

namespace RangeTest

open Float.Model Float.Model.UnpackedFloat

theorem Normal.le_refl {x : Float} {m : Nat} {e : Int} (normal : Normal x m e) : x ≤ x :=
  (normal.le_iff normal).2 (Or.inr ⟨rfl, le_rfl⟩)

theorem Normal.ne_zero {x : Float} {m : Nat} {e : Int} (normal : Normal x m e) : x ≠ 0 := by
  intro nothing
  obtain ⟨_, unpacked⟩ := normal.value
  obtain ⟨zero, _⟩ := literal_bits
  rw [nothing, zero] at unpacked
  cases unpacked

theorem Normal.div_self {x : Float} {m : Nat} {e : Int} (normal : Normal x m e) : x / x = 1.0 := by
  have positive : 0 < m := lt_of_lt_of_le (Nat.two_pow_pos 52) normal.full
  have scale : e - e - 53 = -53 := by omega
  rw [normal.div_eq normal (by omega), Nat.mul_div_cancel_left _ positive, Nat.mul_mod_right, scale]
  have exact : accuracyOfFraction 0 m = .exact := rfl
  rw [exact]
  decide

/-- The quotient of a number that is not zero is not rounded to zero. -/
theorem ofNat_div_eq_zero_iff {a b : Nat} (positive : 0 < b) (aFits : a < 2 ^ 53)
    (bFits : b < 2 ^ 53) : Float.ofNat a / Float.ofNat b = 0 ↔ a = 0 := by
  have right := Normal.ofNat positive bFits
  constructor
  · intro nothing
    by_contra counted
    have left := Normal.ofNat (Nat.pos_of_ne_zero counted) aFits
    have aMagnitude : a.log2 < 53 := (Nat.log2_lt counted).2 aFits
    have bMagnitude : b.log2 < 53 := (Nat.log2_lt (by omega)).2 bFits
    obtain ⟨digits, exponent, normal, _⟩ := left.exists_div right (by omega) (by omega)
    exact normal.ne_zero nothing
  · rintro rfl
    rw [ofNat_zero_div right]
    obtain ⟨zero, same, _⟩ := literal_bits
    rw [zero, same]

/-- Quotients by one number are apart if the numbers divided are far apart. -/
theorem quotient_apart {m l n : Nat} (positive : 0 < n) (nFits : n < 2 ^ 53)
    (apart : m + 2 ^ 20 ≤ l) : m * 2 ^ 53 / n + 2 ≤ l * 2 ^ 53 / n := by
  have floor := Nat.div_mul_le_self (m * 2 ^ 53) n
  rw [Nat.le_div_iff_mul_le positive, Nat.add_mul]
  omega

theorem quotient_apart_double {m l n : Nat} (positive : 0 < n) (nFits : n < 2 ^ 53)
    (apart : m + 2 ^ 20 ≤ l * 2) : m * 2 ^ 53 / n < l * 2 ^ 53 / n * 2 := by
  have lower : m * 2 ^ 53 + n * 2 ≤ l * 2 ^ 53 * 2 := by omega
  have next : l * 2 ^ 53 < l * 2 ^ 53 / n * n + n := Nat.lt_div_mul_add positive
  have upper := Nat.mul_lt_mul_of_pos_right next two_pos
  rw [Nat.add_mul] at upper
  rw [Nat.div_lt_iff_lt_mul positive, Nat.mul_right_comm]
  exact Nat.lt_of_add_lt_add_right (lower.trans_lt upper)

/-- Rounding keeps the order of two numbers that differ in the digits that remain. -/
theorem Normal.round_le_round {m l k j : Nat} {e f : Int} {left right : Accuracy}
    (leftFull : 2 ^ (52 + k) ≤ m) (leftFits : m < 2 ^ (53 + k)) (leftLower : -1074 ≤ e + k)
    (leftUpper : e + k < 971) (rightFull : 2 ^ (52 + j) ≤ l) (rightFits : l < 2 ^ (53 + j))
    (rightLower : -1074 ≤ f + j) (rightUpper : f + j < 971)
    (below : e + k < f + j ∨ e + k = f + j ∧ m < l / 2 ^ j * 2 ^ k) :
    Float.ofModel (.pack (roundWithAccuracy .binary64 .positive m e left)) ≤
      .ofModel (.pack (roundWithAccuracy .binary64 .positive l f right)) := by
  obtain ⟨rounded, floor, _, _, normal⟩ :=
    Normal.exists_round right rightFull rightFits rightLower rightUpper
  refine normal.round_le leftFull leftFits leftLower leftUpper ?_
  rcases below with less | ⟨level, less⟩
  · exact Or.inl (by split <;> omega)
  · split
    · exact Or.inr ⟨level, Or.inl (less.trans_le (Nat.mul_le_mul_right _ floor))⟩
    · exact Or.inl (by omega)

/-- Floats that are far apart keep their order when they are divided and rounded. -/
theorem Normal.div_le_div {x y z : Float} {m l n : Nat} {e f g : Int} (left : Normal x m e)
    (right : Normal y l f) (divisor : Normal z n g) (ordered : e ≤ f)
    (apart : m + 2 ^ 20 ≤ l * 2 ^ (f - e).toNat) (lower : -1000 ≤ e - g) (upper : f - g ≤ 900) :
    x / z ≤ y / z := by
  obtain ⟨leftFull, leftFits⟩ := quotient_digits left.full left.fits divisor.full divisor.fits
  obtain ⟨rightFull, rightFits⟩ := quotient_digits right.full right.fits divisor.full divisor.fits
  have positive : 0 < n := by have := divisor.full; omega
  have unit (same : f = e) : m + 2 ^ 20 ≤ l := by
    rwa [same, Int.sub_self, Int.toNat_zero, Nat.pow_zero, Nat.mul_one] at apart
  have single (same : f = e) := quotient_apart positive divisor.fits (unit same)
  have double (next : f = e + 1) : m * 2 ^ 53 / n < l * 2 ^ 53 / n * 2 := by
    have one : (f - e).toNat = 1 := by omega
    rw [one] at apart
    exact quotient_apart_double positive divisor.fits apart
  rw [left.div_eq divisor (by omega), right.div_eq divisor (by omega)]
  -- The quotients are named because their powers of two must not be unfolded below.
  obtain ⟨p, leftDigits⟩ : ∃ p, p = m * 2 ^ 53 / n := ⟨_, rfl⟩
  obtain ⟨q, rightDigits⟩ : ∃ q, q = l * 2 ^ 53 / n := ⟨_, rfl⟩
  rw [← leftDigits, ← rightDigits]
  rw [← leftDigits] at leftFull leftFits single double
  rw [← rightDigits] at rightFull rightFits single double
  clear leftDigits rightDigits
  -- How many digits a quotient has depends on which mantissa is larger.
  by_cases leftLess : m < n <;> by_cases rightLess : l < n <;>
    simp only [leftLess, rightLess, if_true, if_false] at leftFull leftFits rightFull rightFits
  all_goals
    refine round_le_round leftFull leftFits (by omega) (by omega) rightFull rightFits (by omega)
      (by omega) ?_
    rcases lt_or_eq_of_le ordered with less | same
  · exact Or.inl (by omega)
  · have below := single same.symm
    exact Or.inr ⟨by omega, by omega⟩
  · exact Or.inl (by omega)
  · exact Or.inl (by omega)
  · rcases lt_or_eq_of_le (Int.add_one_le_of_lt less) with more | next
    · exact Or.inl (by omega)
    · have below := double next.symm
      exact Or.inr ⟨by omega, by omega⟩
  · have order := unit same.symm
    omega
  · exact Or.inl (by omega)
  · have below := single same.symm
    exact Or.inr ⟨by omega, by omega⟩

/-- The quotient by one number of a larger one is at least as large, also when it is rounded. -/
theorem ofNat_div_le_ofNat_div {a b d : Nat} (ordered : a ≤ b) (positive : 0 < d)
    (bFits : b ≤ 2 ^ 32) (dFits : d ≤ 2 ^ 32) :
    Float.ofNat a / Float.ofNat d ≤ Float.ofNat b / Float.ofNat d := by
  have divisor := Normal.ofNat positive (by omega : d < 2 ^ 53)
  have dMagnitude : d.log2 < 33 := (Nat.log2_lt (by omega)).2 (by omega)
  rcases Nat.eq_zero_or_pos a with rfl | counted
  · obtain ⟨nonnegative, _⟩ := ofNat_div_proportion (a := b) positive (by omega) (by omega)
    obtain ⟨zero, same, _⟩ := literal_bits
    rwa [ofNat_zero_div divisor, same, ← zero]
  have bMagnitude : b.log2 < 33 := (Nat.log2_lt (by omega)).2 (by omega)
  have left := Normal.ofNat counted (by omega : a < 2 ^ 53)
  rcases Nat.lt_or_eq_of_le ordered with more | rfl
  · have right := Normal.ofNat (counted.trans more) (by omega : b < 2 ^ 53)
    have magnitudes : a.log2 ≤ b.log2 :=
      (Nat.le_log2 (by omega)).2 ((Nat.log2_self_le (by omega)).trans ordered)
    refine left.div_le_div right divisor (by omega) ?_ (by omega) (by omega)
    have unit : 2 ^ 20 ≤ 2 ^ (52 - a.log2) := Nat.pow_le_pow_right two_pos (by omega)
    have shift : 52 - b.log2 + ((b.log2 : Int) - 52 - (a.log2 - 52)).toNat = 52 - a.log2 := by
      omega
    calc a * 2 ^ (52 - a.log2) + 2 ^ 20 ≤ (a + 1) * 2 ^ (52 - a.log2) := by
          rw [Nat.succ_mul]
          exact Nat.add_le_add_left unit _
      _ ≤ b * 2 ^ (52 - a.log2) := Nat.mul_le_mul_right _ more
      _ = _ := by rw [Nat.mul_assoc, ← Nat.pow_add, shift]
  · obtain ⟨_, _, normal, _⟩ := left.exists_div divisor (by omega) (by omega)
    exact normal.le_refl

end RangeTest
