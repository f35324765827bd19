import Mathlib

namespace RangeTest

open Float.Model Float.Model.UnpackedFloat

/-- A float is the positive number `mantissa * 2 ^ exponent`, and its mantissa uses all digits. -/
structure Normal (x : Float) (mantissa : Nat) (exponent : Int) : Prop where
  full : 2 ^ 52 ≤ mantissa
  fits : mantissa < 2 ^ 53
  value : ∃ positive, x.toModel.unpack = .finite .positive mantissa exponent positive

theorem log2_mantissa {mantissa : Nat} (full : 2 ^ 52 ≤ mantissa) (fits : mantissa < 2 ^ 53) :
    mantissa.log2 = 52 :=
  (Nat.log2_eq_iff (by omega)).2 ⟨full, fits⟩

/-- Normal floats are ordered by their exponents first. -/
theorem Normal.le_iff {x y : Float} {m n : Nat} {e f : Int} (left : Normal x m e)
    (right : Normal y n f) : x ≤ y ↔ e < f ∨ e = f ∧ m ≤ n := by
  obtain ⟨_, unpackedLeft⟩ := left.value
  obtain ⟨_, unpackedRight⟩ := right.value
  have compared : x ≤ y ↔ ((compare e f).then (compare m n)).isLE := by
    change (decide (x.toModel.unpack.le y.toModel.unpack = true)) = true ↔ _
    rw [unpackedLeft, unpackedRight, decide_eq_true_iff]
    rfl
  rw [compared]
  rcases lt_trichotomy e f with less | same | more
  · simp [compare_lt_iff_lt.2 less, less]
  · have mantissas : (compare m n).isLE = true ↔ m ≤ n := by
      rw [Ordering.isLE_iff_ne_gt, not_congr compare_gt_iff_gt, not_lt]
    simp [same, mantissas]
  · have notLess := not_lt_of_gt more
    have notSame := ne_of_gt more
    simp [compare_gt_iff_gt.2 more, notLess, notSame]

theorem unpackSign_packComponents {format : Format} (sign : Sign)
    (exponent : BitVec format.exponentBits) (mantissa : BitVec format.mantissaBitsWithoutImplicit) :
    unpackSign (packComponents format sign exponent mantissa) = sign.toBitVec := by
  ext i bound
  have first : i = 0 := by omega
  subst first
  simp [unpackSign, packComponents, BitVec.getLsbD_append, BitVec.getElem_append]

theorem toNat_implicit_append {mantissa : Nat} (full : 2 ^ 52 ≤ mantissa)
    (fits : mantissa < 2 ^ 53) : (1#1 ++ BitVec.ofNat 52 mantissa).toNat = mantissa := by
  rw [BitVec.toNat_append, BitVec.toNat_ofNat, BitVec.toNat_ofNat,
    ← Nat.shiftLeft_add_eq_or_of_lt (Nat.mod_lt _ (by decide)), Nat.shiftLeft_eq]
  omega

/-- A float that fits survives being packed into its 64 bits. -/
theorem Normal.ofModel_pack {mantissa : Nat} {exponent : Int} (full : 2 ^ 52 ≤ mantissa)
    (fits : mantissa < 2 ^ 53) (lower : -1074 ≤ exponent) (upper : exponent ≤ 971)
    (positive : 0 < mantissa) :
    Normal (.ofModel (.pack (.finite .positive mantissa exponent positive))) mantissa exponent where
  full := full
  fits := fits
  value := by
    refine ⟨positive, ?_⟩
    have digits := log2_mantissa full fits
    obtain ⟨biased, biased_eq⟩ : ∃ biased : Nat, (biased : Int) = exponent + 1023 + 52 :=
      ⟨(exponent + 1023 + 52).toNat, by omega⟩
    have packed : pack .binary64 (.finite .positive mantissa exponent positive) =
        packComponents .binary64 .positive (.ofNat 11 biased) (.ofNat 52 mantissa) := by
      have scale : (exponent + (Format.binary64.exponentBias : Int) +
          (Format.binary64.mantissaBitsWithoutImplicit : Int)).toNat = biased := by
        change (exponent + 1023 + 52).toNat = biased
        omega
      have inRange : ¬ 2 ^ Format.binary64.exponentBits ≤ biased + 1 := by
        change ¬ 2048 ≤ biased + 1
        omega
      simp only [UnpackedFloat.pack, scale]
      rw [if_neg inRange, digits]
      exact if_pos rfl
    have stored : (BitVec.ofNat 11 biased).toNat = biased := by
      rw [BitVec.toNat_ofNat]
      omega
    have notSpecial : BitVec.ofNat 11 biased ≠ -1#11 := by
      intro same
      have value := congrArg BitVec.toNat same
      rw [stored] at value
      change biased = 2047 at value
      omega
    have notSubnormal : BitVec.ofNat 11 biased ≠ 0#11 := by
      intro same
      have value := congrArg BitVec.toNat same
      rw [stored] at value
      change biased = 0 at value
      omega
    have scale : (biased : Int) - ((Format.binary64.exponentBias : Int) +
        (Format.binary64.mantissaBitsWithoutImplicit : Int)) = exponent := by
      change (biased : Int) - (1023 + 52) = exponent
      omega
    change unpack .binary64 (pack .binary64 (.finite .positive mantissa exponent positive)) = _
    rw [packed]
    simp only [UnpackedFloat.unpack, unpackMantissa_packComponents, unpackExponent_packComponents,
      unpackSign_packComponents]
    rw [if_neg notSpecial, if_neg notSubnormal]
    simp only [toNat_implicit_append full fits, stored, scale]
    rfl

end RangeTest
