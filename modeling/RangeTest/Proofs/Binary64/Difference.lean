import RangeTest.Proofs.Binary64.Normal

namespace RangeTest

open Float.Model Float.Model.UnpackedFloat

theorem sign_neg_mul_neg (sign : Sign) : -sign * -sign = sign * sign := by
  cases sign <;> rfl

theorem roundWithAccuracy_neg (format : Format) (sign : Sign) (mantissa : Nat) (exponent : Int)
    (accuracy : Accuracy) :
    roundWithAccuracy format (-sign) mantissa exponent accuracy =
      (roundWithAccuracy format sign mantissa exponent accuracy).neg := by
  simp only [roundWithAccuracy]
  split
  · rfl
  · rfl

theorem round_neg (format : Format) (sign : Sign) (mantissa : Nat) (exponent : Int) :
    round format (-sign) mantissa exponent = (round format sign mantissa exponent).neg :=
  roundWithAccuracy_neg ..

theorem normalize_neg (format : Format) {mantissa : Int} (nonzero : mantissa ≠ 0)
    (exponent : Int) :
    normalize format (-mantissa) exponent .positive =
      (normalize format mantissa exponent .positive).neg := by
  rcases lt_or_gt_of_ne nonzero with below | above
  · rw [UnpackedFloat.normalize, UnpackedFloat.normalize,
      compare_gt_iff_gt.2 (Int.neg_pos_of_neg below), compare_lt_iff_lt.2 below]
    exact round_neg format .negative (-mantissa).toNat exponent
  · rw [UnpackedFloat.normalize, UnpackedFloat.normalize,
      compare_lt_iff_lt.2 (Int.neg_neg_of_pos above), compare_gt_iff_gt.2 above, neg_neg]
    exact round_neg format .positive mantissa.toNat exponent

/-- Where the operands of a difference change places, its sign changes, or else it is zero and stays
the same. -/
theorem sub_swap (format : Format) (u v : UnpackedFloat) :
    sub format v u = (sub format u v).neg ∨ sub format v u = sub format u v := by
  cases u with
  | notANumber => cases v <;> exact Or.inr rfl
  | infinity s =>
    cases v with
    | notANumber => exact Or.inr rfl
    | infinity t => cases s <;> cases t <;> exact Or.inl rfl
    | zero t => exact Or.inl rfl
    | finite t n f positive => exact Or.inl rfl
  | zero s =>
    cases v with
    | notANumber => exact Or.inr rfl
    | infinity t => cases t <;> exact Or.inl rfl
    | zero t =>
      cases s <;> cases t
      · exact Or.inr rfl
      · exact Or.inl rfl
      · exact Or.inl rfl
      · exact Or.inr rfl
    | finite t n f positive => cases t <;> exact Or.inl rfl
  | finite s m e positive =>
    cases v with
    | notANumber => exact Or.inr rfl
    | infinity t => cases t <;> exact Or.inl rfl
    | zero t => exact Or.inl rfl
    | finite t n f positive' =>
      simp only [UnpackedFloat.sub, min_comm f e]
      generalize s.apply (decreaseExponent m e (min e f)).1 = x
      generalize t.apply (decreaseExponent n f (min e f)).1 = y
      by_cases same : x = y
      · rw [same]
        exact Or.inr rfl
      · rw [← neg_sub x y]
        exact Or.inl (normalize_neg format (sub_ne_zero.2 same) _)

theorem unpack_packComponents_neg (format : Format) (sign : Sign)
    (exponent : BitVec format.exponentBits)
    (mantissa : BitVec format.mantissaBitsWithoutImplicit) :
    unpack format (packComponents format (-sign) exponent mantissa) =
      (unpack format (packComponents format sign exponent mantissa)).neg := by
  have restored (s : Sign) : Sign.ofBitVec s.toBitVec = s := by cases s <;> rfl
  simp only [UnpackedFloat.unpack, unpackMantissa_packComponents, unpackExponent_packComponents,
    unpackSign_packComponents, restored]
  split_ifs <;> rfl

theorem unpack_pack_neg (u : UnpackedFloat) :
    unpack .binary64 (UnpackedFloat.pack .binary64 u.neg) =
      (unpack .binary64 (UnpackedFloat.pack .binary64 u)).neg := by
  cases u with
  | notANumber => rfl
  | infinity s => exact unpack_packComponents_neg ..
  | zero s => exact unpack_packComponents_neg ..
  | finite s m e positive =>
    rw [UnpackedFloat.neg, UnpackedFloat.pack, UnpackedFloat.pack]
    split_ifs
    · exact unpack_packComponents_neg ..
    · exact unpack_packComponents_neg ..
    · exact unpack_packComponents_neg ..

theorem mul_self_neg (format : Format) (u : UnpackedFloat) :
    mul format u.neg u.neg = mul format u u := by
  cases u with
  | notANumber => rfl
  | infinity s => exact congrArg UnpackedFloat.infinity (sign_neg_mul_neg s)
  | zero s => exact congrArg UnpackedFloat.zero (sign_neg_mul_neg s)
  | finite s m e positive =>
    exact congrArg (roundWithAccuracy format · (m * m) (e + e) .exact) (sign_neg_mul_neg s)

/-- The square of a difference does not depend on the order of its operands, whatever floats they
are. -/
theorem sub_mul_sub_comm (x y : Float) : (x - y) * (x - y) = (y - x) * (y - x) := by
  have product (d : UnpackedFloat) : Float.ofModel (.pack d) * Float.ofModel (.pack d) =
      .ofModel (.pack (mul .binary64 (unpack .binary64 (UnpackedFloat.pack .binary64 d))
        (unpack .binary64 (UnpackedFloat.pack .binary64 d)))) := rfl
  change Float.ofModel (.pack (sub .binary64 x.toModel.unpack y.toModel.unpack)) *
      Float.ofModel (.pack (sub .binary64 x.toModel.unpack y.toModel.unpack)) =
    Float.ofModel (.pack (sub .binary64 y.toModel.unpack x.toModel.unpack)) *
      Float.ofModel (.pack (sub .binary64 y.toModel.unpack x.toModel.unpack))
  obtain swapped | same := sub_swap .binary64 x.toModel.unpack y.toModel.unpack
  · rw [product, product, swapped, unpack_pack_neg, mul_self_neg]
  · rw [same]

end RangeTest
