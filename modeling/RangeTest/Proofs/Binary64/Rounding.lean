import RangeTest.Proofs.Binary64.Normal

namespace RangeTest

open Float.Model Float.Model.UnpackedFloat

theorem mantissa_shiftRight (em : ExtendedMantissa) (k : Nat) :
    (em >>> k).mantissa = em.mantissa / 2 ^ k := by
  induction k with
  | zero => exact (Nat.div_one _).symm
  | succ k ih =>
    change (em >>> k).mantissa / 2 = _
    rw [ih, Nat.div_div_eq_div_mul, Nat.pow_succ]

/-- No digit that counts is shifted out of a multiple. -/
theorem shiftRight_multiple (n k : Nat) :
    (⟨n * 2 ^ k, false, false⟩ : ExtendedMantissa) >>> k = ⟨n, false, false⟩ := by
  induction k generalizing n with
  | zero => exact congrArg (ExtendedMantissa.mk · false false) (Nat.mul_one n)
  | succ k ih =>
    have shifted := ih (n * 2)
    change (((⟨n * 2 ^ (k + 1), false, false⟩ : ExtendedMantissa) >>> k).shiftRightOne) = _
    rw [Nat.pow_succ, Nat.mul_comm (2 ^ k), ← Nat.mul_assoc, shifted]
    simp [ExtendedMantissa.shiftRightOne]

theorem roundedMantissa_bounds (em : ExtendedMantissa) :
    em.mantissa ≤ em.roundedMantissa ∧ em.roundedMantissa ≤ em.mantissa + 1 := by
  obtain ⟨mantissa, roundBit, stickyBit⟩ := em
  have parity := Nat.mod_lt mantissa two_pos
  cases roundBit <;> cases stickyBit <;>
    simp only [ExtendedMantissa.roundedMantissa, ExtendedMantissa.accuracy,
      Accuracy.roundToNearestEven] <;> omega

/-- A number with `53 + k` digits has to lose `k` of them. -/
theorem shiftToTargetExponent_eq {n k : Nat} {exponent : Int} (accuracy : Accuracy)
    (full : 2 ^ (52 + k) ≤ n) (fits : n < 2 ^ (53 + k)) (lower : -1074 ≤ exponent + k) :
    shiftToTargetExponent .binary64 n exponent accuracy =
      (ExtendedMantissa.ofMantissaAndAccuracy n accuracy >>> k, exponent + k) := by
  have digits : n.log2 = 52 + k := by
    have positive : 0 < 2 ^ (52 + k) := Nat.two_pow_pos _
    refine (Nat.log2_eq_iff (by omega)).2 ⟨full, ?_⟩
    rwa [show 52 + k + 1 = 53 + k by omega]
  have target : Format.binary64.targetExponent (totalExponent n exponent) = exponent + k := by
    rw [Format.targetExponent, totalExponent, digits]
    change max (((52 + k : Nat) : Int) + 1 + exponent - 53) (-1074) = exponent + k
    omega
  have amount : (exponent + k - exponent).toNat = k := by omega
  rw [shiftToTargetExponent, target, shiftToExponent, amount]

/-- Rounded digits overflow at most to the next power of two. -/
theorem shiftToTargetExponent_rounded {rounded : Nat} {exponent : Int} (full : 2 ^ 52 ≤ rounded)
    (fits : rounded ≤ 2 ^ 53) (lower : -1074 ≤ exponent) :
    shiftToTargetExponent .binary64 rounded exponent .exact =
      (⟨if rounded < 2 ^ 53 then rounded else 2 ^ 52, false, false⟩,
        if rounded < 2 ^ 53 then exponent else exponent + 1) := by
  by_cases small : rounded < 2 ^ 53
  · have unshifted : -1074 ≤ exponent + (0 : Nat) := by omega
    rw [shiftToTargetExponent_eq .exact full small unshifted, if_pos small, if_pos small]
    exact congrArg _ (Int.add_zero exponent)
  · have overflow : rounded = 2 ^ 52 * 2 ^ 1 := by omega
    have shifted : -1074 ≤ exponent + (1 : Nat) := by omega
    rw [shiftToTargetExponent_eq .exact (by omega) (by omega) shifted, if_neg small, if_neg small,
      overflow, ExtendedMantissa.ofMantissaAndAccuracy, shiftRight_multiple]
    rfl

/-- What becomes of a number with `53 + k` digits when it is rounded: the digits that remain are
rounded down or up, and if they overflow, the exponent grows. -/
theorem Normal.exists_round {n k : Nat} {exponent : Int} (accuracy : Accuracy)
    (full : 2 ^ (52 + k) ≤ n) (fits : n < 2 ^ (53 + k)) (lower : -1074 ≤ exponent + k)
    (upper : exponent + k < 971) :
    ∃ rounded, n / 2 ^ k ≤ rounded ∧ rounded ≤ n / 2 ^ k + 1 ∧
      (accuracy = .exact → 2 ^ k ∣ n → rounded = n / 2 ^ k) ∧
      Normal (.ofModel (.pack (roundWithAccuracy .binary64 .positive n exponent accuracy)))
        (if rounded < 2 ^ 53 then rounded else 2 ^ 52)
        (if rounded < 2 ^ 53 then exponent + k else exponent + k + 1) := by
  have first := shiftToTargetExponent_eq accuracy full fits lower
  have bounds := roundedMantissa_bounds
    (ExtendedMantissa.ofMantissaAndAccuracy n accuracy >>> k)
  have kept : (ExtendedMantissa.ofMantissaAndAccuracy n accuracy >>> k).mantissa = n / 2 ^ k := by
    rw [mantissa_shiftRight]
    cases accuracy with
    | exact => rfl
    | inexact relative => cases relative <;> rfl
  have floorFull : 2 ^ 52 ≤ n / 2 ^ k :=
    (Nat.le_div_iff_mul_le (Nat.two_pow_pos k)).2 (by rwa [← Nat.pow_add])
  have floorFits : n / 2 ^ k < 2 ^ 53 :=
    (Nat.div_lt_iff_lt_mul (Nat.two_pow_pos k)).2 (by rwa [← Nat.pow_add])
  rw [kept] at bounds
  generalize result : (ExtendedMantissa.ofMantissaAndAccuracy n accuracy >>> k).roundedMantissa =
    rounded at bounds
  refine ⟨rounded, bounds.1, bounds.2, ?_, ?_⟩
  · rintro rfl ⟨quotient, rfl⟩
    rw [Nat.mul_comm, ExtendedMantissa.ofMantissaAndAccuracy, shiftRight_multiple] at result
    rw [← result, Nat.mul_div_cancel_left _ (Nat.two_pow_pos k)]
    rfl
  · have second := shiftToTargetExponent_rounded (by omega) (by omega : rounded ≤ 2 ^ 53) lower
    rw [roundWithAccuracy, first]
    simp only [result, second]
    by_cases small : rounded < 2 ^ 53
    · simp only [small, if_true]
      rw [dif_neg (by omega)]
      exact .ofModel_pack (by omega) small lower (by omega) _
    · simp only [small, if_false]
      rw [dif_neg (by decide)]
      exact .ofModel_pack (by decide) (by decide) (by omega) (by omega) _

/-- Nothing is lost if all digits that have to go are zero. -/
theorem Normal.round_exact {mantissa k : Nat} {exponent : Int} (full : 2 ^ 52 ≤ mantissa)
    (fits : mantissa < 2 ^ 53) (lower : -1074 ≤ exponent + k) (upper : exponent + k < 971) :
    Normal
      (.ofModel (.pack (roundWithAccuracy .binary64 .positive (mantissa * 2 ^ k) exponent .exact)))
      mantissa (exponent + k) := by
  have positive := Nat.two_pow_pos k
  have full' : 2 ^ (52 + k) ≤ mantissa * 2 ^ k := by
    rw [Nat.pow_add]
    exact Nat.mul_le_mul_right _ full
  have fits' : mantissa * 2 ^ k < 2 ^ (53 + k) := by
    rw [Nat.pow_add]
    exact Nat.mul_lt_mul_of_pos_right fits positive
  obtain ⟨rounded, _, _, same, normal⟩ := exists_round .exact full' fits' lower upper
  have unchanged : rounded = mantissa := by
    rw [same rfl (Nat.dvd_mul_left _ _), Nat.mul_div_cancel _ positive]
  rw [unchanged, if_pos fits, if_pos fits] at normal
  exact normal

section

variable {n k c : Nat} {exponent f : Int} {accuracy : Accuracy} {bound : Float}
  (full : 2 ^ (52 + k) ≤ n) (fits : n < 2 ^ (53 + k)) (lower : -1074 ≤ exponent + k)
  (upper : exponent + k < 971) (normal : Normal bound c f)

include full fits lower upper normal

/-- A number is not rounded past a float that is above it. -/
theorem Normal.round_le (below : exponent + k < f ∨
      exponent + k = f ∧ (n < c * 2 ^ k ∨ n = c * 2 ^ k ∧ accuracy = .exact)) :
    .ofModel (.pack (roundWithAccuracy .binary64 .positive n exponent accuracy)) ≤ bound := by
  obtain ⟨rounded, floor, ceil, same, result⟩ := exists_round accuracy full fits lower upper
  have boundFull := normal.full
  rw [result.le_iff normal]
  rcases below with less | ⟨level, less | ⟨equal, exact⟩⟩
  · split
    · exact Or.inl less
    · omega
  · have mantissas : n / 2 ^ k < c := (Nat.div_lt_iff_lt_mul (Nat.two_pow_pos k)).2 less
    have boundFits := normal.fits
    have small : rounded < 2 ^ 53 := by omega
    rw [if_pos small, if_pos small]
    exact Or.inr ⟨level, by omega⟩
  · have kept := same exact (equal ▸ Nat.dvd_mul_left _ _)
    rw [equal, Nat.mul_div_cancel _ (Nat.two_pow_pos k)] at kept
    rw [kept, if_pos normal.fits, if_pos normal.fits]
    exact Or.inr ⟨level, le_rfl⟩

/-- A number is not rounded down to a float that is clearly below it. -/
theorem Normal.not_round_le
    (above : f < exponent + k ∨ f = exponent + k ∧ (c + 1) * 2 ^ k ≤ n) :
    ¬ .ofModel (.pack (roundWithAccuracy .binary64 .positive n exponent accuracy)) ≤ bound := by
  obtain ⟨rounded, floor, ceil, same, result⟩ := exists_round accuracy full fits lower upper
  rw [result.le_iff normal]
  rcases above with more | ⟨level, more⟩
  · split <;> omega
  · have mantissas : c + 1 ≤ n / 2 ^ k := (Nat.le_div_iff_mul_le (Nat.two_pow_pos k)).2 more
    split <;> omega

end

end RangeTest
