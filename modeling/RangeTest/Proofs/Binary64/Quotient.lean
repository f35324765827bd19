import RangeTest.Proofs.Binary64.Rounding

namespace RangeTest

open Float.Model Float.Model.UnpackedFloat

theorem Normal.mul_eq {x y : Float} {m n : Nat} {e f : Int} (left : Normal x m e)
    (right : Normal y n f) :
    x * y = .ofModel (.pack (roundWithAccuracy .binary64 .positive (m * n) (e + f) .exact)) := by
  obtain ⟨_, unpackedLeft⟩ := left.value
  obtain ⟨_, unpackedRight⟩ := right.value
  change Float.ofModel (.pack (mul .binary64 x.toModel.unpack y.toModel.unpack)) = _
  rw [unpackedLeft, unpackedRight]
  rfl

theorem Normal.div_eq {x y : Float} {m n : Nat} {e f : Int} (left : Normal x m e)
    (right : Normal y n f) (lower : -1074 ≤ e - f - 53) :
    x / y = .ofModel (.pack (roundWithAccuracy .binary64 .positive (m * 2 ^ 53 / n) (e - f - 53)
      (accuracyOfFraction (m * 2 ^ 53 % n) n))) := by
  obtain ⟨_, unpackedLeft⟩ := left.value
  obtain ⟨_, unpackedRight⟩ := right.value
  have target : min (e - f) (Format.binary64.targetExponent
      (totalExponent m e - totalExponent n f)) = e - f - 53 := by
    rw [Format.targetExponent, totalExponent, totalExponent, log2_mantissa left.full left.fits,
      log2_mantissa right.full right.fits]
    change min (e - f) (max ((52 : Nat) + 1 + e - ((52 : Nat) + 1 + f) - 53) (-1074)) = _
    omega
  have amount : (e - f - (e - f - 53)).toNat = 53 := by omega
  have core : divCore .binary64 m e n f =
      (m * 2 ^ 53 / n, e - f - 53, accuracyOfFraction (m * 2 ^ 53 % n) n) := by
    rw [divCore, target, amount, Nat.shiftLeft_eq]
  change Float.ofModel (.pack (div .binary64 x.toModel.unpack y.toModel.unpack)) = _
  rw [unpackedLeft, unpackedRight]
  simp only [UnpackedFloat.div, core]
  rfl

/-- The literals in use, by their bits. -/
theorem literal_bits : (0 : Float) = .ofBits 0 ∧ Float.ofNat 0 = .ofBits 0 ∧
    (1.0 : Float) = .ofBits 0x3FF0000000000000 ∧ (100.0 : Float) = .ofBits 0x4059000000000000 := by
  decide

theorem normal_one : Normal 1.0 (2 ^ 52) (-52) where
  full := le_rfl
  fits := by decide
  value := by
    obtain ⟨_, _, bits, _⟩ := literal_bits
    exact bits ▸ ⟨by decide, rfl⟩

theorem normal_hundred : Normal 100.0 (100 * 2 ^ 46) (-46) where
  full := by decide
  fits := by decide
  value := by
    obtain ⟨_, _, _, bits⟩ := literal_bits
    exact bits ▸ ⟨by decide, rfl⟩

/-- Numbers that are not too large are represented exactly. -/
theorem Normal.ofNat {n : Nat} (positive : 0 < n) (fits : n < 2 ^ 53) :
    Normal (Float.ofNat n) (n * 2 ^ (52 - n.log2)) (n.log2 - 52) := by
  have nonzero : n ≠ 0 := by omega
  have magnitude : n.log2 < 53 := (Nat.log2_lt nonzero).2 fits
  have scale : 2 ^ n.log2 * 2 ^ (52 - n.log2) = 2 ^ 52 := by
    rw [← Nat.pow_add]
    congr 1
    omega
  have full : 2 ^ 52 ≤ n * 2 ^ (52 - n.log2) := by
    rw [← scale]
    exact Nat.mul_le_mul_right _ (Nat.log2_self_le nonzero)
  have digits : n * 2 ^ (52 - n.log2) < 2 ^ 53 := by
    have below := Nat.mul_lt_mul_of_pos_right (Nat.lt_log2_self (n := n))
      (Nat.two_pow_pos (52 - n.log2))
    rw [Nat.pow_succ, Nat.mul_right_comm, scale] at below
    exact below
  have converted : Normal n.toUInt64.toFloat (n * 2 ^ (52 - n.log2)) (n.log2 - 52) := by
    have word : n.toUInt64.toNat = n :=
      UInt64.toNat_ofNat_of_lt' (lt_trans fits (by decide))
    have integer : compare (n : Int) 0 = .gt := compare_gt_iff_gt.2 (by omega)
    have target : Format.binary64.targetExponent (totalExponent n 0) = n.log2 - 52 := by
      rw [Format.targetExponent, totalExponent]
      change max ((n.log2 : Int) + 1 + 0 - 53) (-1074) = _
      omega
    have amount : (0 - ((n.log2 : Int) - 52)).toNat = 52 - n.log2 := by omega
    have exponent : (0 : Int) - (52 - n.log2 : Nat) = n.log2 - 52 := by omega
    have rounded := Normal.round_exact (k := 0) full digits
      (by omega : -1074 ≤ ((n.log2 : Int) - 52) + (0 : Nat)) (by omega)
    change Normal (.ofModel (.pack (normalize .binary64 n.toUInt64.toNat 0 .positive))) _ _
    rw [word, UnpackedFloat.normalize, integer]
    simp only [UnpackedFloat.round, Int.toNat_natCast, target, decreaseExponent, amount, exponent,
      Nat.shiftLeft_eq]
    simpa using rounded
  have unscaled : Float.ofNat n = n.toUInt64.toFloat * 1.0 := by
    obtain ⟨_, _, one, _⟩ := literal_bits
    change Float.ofScientific n false 0 = _
    rw [Float.ofScientific, dif_pos ⟨fits, by decide⟩, one]
    rfl
  have product := Normal.round_exact (k := 52) full digits
    (by omega : -1074 ≤ ((n.log2 : Int) - 52 + -52) + (52 : Nat)) (by omega)
  rw [unscaled, converted.mul_eq normal_one]
  have exponent : (n.log2 : Int) - 52 + -52 + (52 : Nat) = n.log2 - 52 := by omega
  rwa [exponent] at product

/-- How many digits a quotient has depends on which mantissa is larger. -/
theorem quotient_digits {m n : Nat} (mFull : 2 ^ 52 ≤ m) (mFits : m < 2 ^ 53) (nFull : 2 ^ 52 ≤ n)
    (nFits : n < 2 ^ 53) :
    2 ^ (52 + if m < n then 0 else 1) ≤ m * 2 ^ 53 / n ∧
      m * 2 ^ 53 / n < 2 ^ (53 + if m < n then 0 else 1) := by
  have positive : 0 < n := by omega
  rw [Nat.le_div_iff_mul_le positive, Nat.div_lt_iff_lt_mul positive]
  split <;> constructor <;> omega

/-- A quotient of floats in a moderate range is a float again. -/
theorem Normal.exists_div {x y : Float} {m n : Nat} {e f : Int} (left : Normal x m e)
    (right : Normal y n f) (lower : -1000 ≤ e - f) (upper : e - f ≤ 1000) :
    ∃ digits exponent, Normal (x / y) digits exponent ∧
      e - f - 53 ≤ exponent ∧ exponent ≤ e - f - 51 := by
  obtain ⟨full, fits⟩ := quotient_digits left.full left.fits right.full right.fits
  have scale : (if m < n then 0 else 1) ≤ 1 := by split <;> omega
  obtain ⟨rounded, _, _, _, normal⟩ := Normal.exists_round
    (accuracyOfFraction (m * 2 ^ 53 % n) n) full fits
    (by omega : -1074 ≤ e - f - 53 + ((if m < n then 0 else 1 : Nat) : Int)) (by omega)
  rw [← left.div_eq right (by omega)] at normal
  refine ⟨_, _, normal, ?_, ?_⟩ <;> split <;> omega

/-- The quotient of a float by a larger one is a proportion. -/
theorem Normal.div_le_one {x y : Float} {m n : Nat} {e f : Int} (left : Normal x m e)
    (right : Normal y n f) (lower : -1000 ≤ e - f) (ordered : x ≤ y) : x / y ≤ 1.0 := by
  obtain ⟨full, fits⟩ := quotient_digits left.full left.fits right.full right.fits
  have order := (left.le_iff right).1 ordered
  rw [left.div_eq right (by omega)]
  refine normal_one.round_le full fits ?_ ?_ ?_
  · split <;> omega
  · split <;> omega
  · by_cases less : m < n
    · simp only [less, if_true]
      exact Or.inl (by omega)
    · simp only [less, if_false]
      rcases order with smaller | ⟨same, atMost⟩
      · exact Or.inl (by omega)
      · have equal : m = n := by omega
        have positive : 0 < n := by have := right.full; omega
        have one : m * 2 ^ 53 / n = 2 ^ 52 * 2 ^ 1 := by
          rw [equal, Nat.mul_div_cancel_left _ positive]
          rfl
        have exact : accuracyOfFraction (m * 2 ^ 53 % n) n = .exact := by
          rw [equal, Nat.mul_mod_right]
          rfl
        exact Or.inr ⟨by omega, Or.inr ⟨one, exact⟩⟩

/-- Percents of a proportion are at most one hundred, and no others are. -/
theorem Normal.mul_hundred_le_iff {x : Float} {m : Nat} {e : Int} (normal : Normal x m e)
    (lower : -1000 ≤ e) (upper : e ≤ 900) : x * 100.0 ≤ 100.0 ↔ x ≤ 1.0 := by
  have full := normal.full
  have fits := normal.fits
  rw [normal.mul_eq normal_hundred, normal.le_iff normal_one]
  by_cases short : m * (100 * 2 ^ 46) < 2 ^ 105
  · have low : -1074 ≤ e + -46 + (52 : Nat) := by omega
    have high : e + -46 + (52 : Nat) < 971 := by omega
    have digits : 2 ^ (52 + 52) ≤ m * (100 * 2 ^ 46) := by omega
    constructor
    · intro percent
      by_contra above
      refine normal_hundred.not_round_le digits short low high ?_ percent
      omega
    · intro proportion
      refine normal_hundred.round_le digits short low high ?_
      rcases proportion with less | ⟨same, atMost⟩
      · exact Or.inl (by omega)
      · exact Or.inr ⟨by omega, Or.inr ⟨by omega, rfl⟩⟩
  · have low : -1074 ≤ e + -46 + (53 : Nat) := by omega
    have high : e + -46 + (53 : Nat) < 971 := by omega
    have digits : 2 ^ (52 + 53) ≤ m * (100 * 2 ^ 46) := by omega
    have limit : m * (100 * 2 ^ 46) < 2 ^ (53 + 53) := by omega
    constructor
    · intro percent
      by_contra above
      refine normal_hundred.not_round_le digits limit low high ?_ percent
      omega
    · intro proportion
      refine normal_hundred.round_le digits limit low high ?_
      omega

theorem Normal.zero_le {x : Float} {m : Nat} {e : Int} (normal : Normal x m e) : 0 ≤ x := by
  obtain ⟨_, unpacked⟩ := normal.value
  obtain ⟨zero, _⟩ := literal_bits
  change (decide (UnpackedFloat.le (0 : Float).toModel.unpack x.toModel.unpack = true)) = true
  rw [unpacked, zero]
  rfl

/-- Conversion keeps the order. -/
theorem ofNat_le_ofNat {a b : Nat} (positive : 0 < a) (fits : b < 2 ^ 53) (ordered : a ≤ b) :
    Float.ofNat a ≤ Float.ofNat b := by
  have left := Normal.ofNat positive (lt_of_le_of_lt ordered fits)
  have right := Normal.ofNat (lt_of_lt_of_le positive ordered) fits
  have magnitudes : a.log2 ≤ b.log2 :=
    (Nat.le_log2 (by omega)).2 ((Nat.log2_self_le (by omega)).trans ordered)
  rw [left.le_iff right]
  rcases Nat.lt_or_eq_of_le magnitudes with less | same
  · exact Or.inl (by omega)
  · exact Or.inr ⟨by omega, same ▸ Nat.mul_le_mul_right _ ordered⟩

/-- The quotient of a number by a smaller one is more than the whole, and it stays so when it is
rounded, since the numbers are far from using all digits of a float. -/
theorem not_ofNat_div_le_one {a b : Nat} (positive : 0 < b) (fits : a < 2 ^ 52)
    (more : b < a) : ¬ Float.ofNat a / Float.ofNat b ≤ 1.0 := by
  have left := Normal.ofNat (lt_trans positive more) (by omega)
  have right := Normal.ofNat positive (by omega : b < 2 ^ 53)
  have magnitudes : b.log2 ≤ a.log2 :=
    (Nat.le_log2 (by omega)).2 ((Nat.log2_self_le (by omega)).trans more.le)
  have magnitude : a.log2 < 52 := (Nat.log2_lt (by omega)).2 fits
  obtain ⟨full, digits⟩ := quotient_digits left.full left.fits right.full right.fits
  have nFits := right.fits
  have nPositive : 0 < b * 2 ^ (52 - b.log2) := Nat.mul_pos positive (Nat.two_pow_pos _)
  have apart : b * 2 ^ (52 - a.log2) + 2 ^ (52 - a.log2) ≤ a * 2 ^ (52 - a.log2) := by
    rw [← Nat.succ_mul]
    exact Nat.mul_le_mul_right _ more
  rw [left.div_eq right (by omega)]
  refine normal_one.not_round_le full digits ?_ ?_ ?_
  · split <;> omega
  · split <;> omega
  · rcases Nat.lt_or_eq_of_le magnitudes with larger | same
    · by_cases shorter : a * 2 ^ (52 - a.log2) < b * 2 ^ (52 - b.log2) ∧ b.log2 + 1 = a.log2
      · -- The unit of the numerator is half of that of the denominator.
        have unit : 2 ^ (52 - b.log2) = 2 ^ (52 - a.log2) * 2 := by
          rw [← Nat.pow_succ]
          congr 1
          omega
        have unitPositive := Nat.two_pow_pos (52 - a.log2)
        rw [unit, ← Nat.mul_assoc] at nFits nPositive shorter ⊢
        refine Or.inr ⟨by simp only [shorter.1, if_true]; omega, ?_⟩
        rw [Nat.le_div_iff_mul_le nPositive]
        simp only [shorter.1, if_true]
        omega
      · exact Or.inl (by split <;> omega)
    · have unit : 2 ≤ 2 ^ (52 - a.log2) := Nat.le_self_pow (by omega) 2
      rw [same] at nFits nPositive ⊢
      have longer : ¬ a * 2 ^ (52 - a.log2) < b * 2 ^ (52 - a.log2) := by omega
      refine Or.inr ⟨by simp only [longer, if_false]; omega, ?_⟩
      rw [Nat.le_div_iff_mul_le nPositive]
      simp only [longer, if_false]
      omega

theorem ofNat_zero_div {y : Float} {n : Nat} {f : Int} (right : Normal y n f) :
    Float.ofNat 0 / y = Float.ofNat 0 := by
  obtain ⟨_, unpacked⟩ := right.value
  obtain ⟨_, zero, _⟩ := literal_bits
  change Float.ofModel (.pack (div .binary64 (Float.ofNat 0).toModel.unpack y.toModel.unpack)) = _
  rw [unpacked, zero]
  rfl

/-- When a ratio of two numbers is reported, it is a proportion if and only if the numbers are in
order, and the same holds of its percents. -/
theorem ofNat_div_proportion {a b : Nat} (positive : 0 < b) (aFits : a < 2 ^ 52)
    (bFits : b < 2 ^ 52) :
    0 ≤ Float.ofNat a / Float.ofNat b ∧
      (Float.ofNat a / Float.ofNat b ≤ 1.0 ↔ a ≤ b) ∧
      (Float.ofNat a / Float.ofNat b * 100.0 ≤ 100.0 ↔ a ≤ b) := by
  have right := Normal.ofNat positive (by omega : b < 2 ^ 53)
  rcases Nat.eq_zero_or_pos a with rfl | counted
  · rw [ofNat_zero_div right]
    have zero : 0 ≤ Float.ofNat 0 ∧ Float.ofNat 0 ≤ 1.0 ∧ Float.ofNat 0 * 100.0 ≤ 100.0 := by
      decide
    exact ⟨zero.1, by simp [zero.2.1], by simp [zero.2.2]⟩
  · have left := Normal.ofNat counted (by omega : a < 2 ^ 53)
    have aMagnitude : a.log2 < 52 := (Nat.log2_lt (by omega)).2 aFits
    have bMagnitude : b.log2 < 52 := (Nat.log2_lt (by omega)).2 bFits
    have whole : Float.ofNat a / Float.ofNat b ≤ 1.0 ↔ a ≤ b := by
      constructor
      · intro proportion
        by_contra more
        exact not_ofNat_div_le_one positive aFits (by omega) proportion
      · intro ordered
        exact left.div_le_one right (by omega) (ofNat_le_ofNat counted (by omega) ordered)
    obtain ⟨digits, exponent, normal, low, high⟩ :=
      left.exists_div right (by omega) (by omega)
    exact ⟨normal.zero_le, whole,
      (normal.mul_hundred_le_iff (by omega) (by omega)).trans whole⟩

end RangeTest
