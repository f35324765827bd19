import Mathlib.Data.String.Basic
import RangeTest.Proofs.Text.Utf8

namespace RangeTest

/-- The bytes of a lesser character stand before those of a greater one, whatever follows them. A
longer code begins with a greater byte, and codes of one length are compared digit by digit. -/
theorem Text.encodeChar_append_lt {c d : Char} (less : c < d) (s t : List UInt8) :
    String.utf8EncodeChar c ++ s < String.utf8EncodeChar d ++ t := by
  have codes : c.val.toNat < d.val.toNat := less
  have bounded : d.val.toNat < 0x110000 := by
    rcases d.valid with low | high
    · exact low.trans (by decide)
    · exact high.2
  simp only [String.utf8EncodeChar]
  split_ifs
  all_goals
    -- No byte overflows, so the bytes compare like the digits that they are made of.
    simp (disch := omega) only [List.cons_append, List.nil_append, List.cons_lt_cons_iff,
      UInt8.lt_iff_toNat_lt, ← UInt8.toNat_inj, UInt8.toNat_ofNat', Nat.mod_eq_of_lt]
    omega

/-- Texts that are in the order of their code points are in the order of their UTF-8 bytes. -/
theorem Text.encode_lt_encode {s t : List Char} (less : s < t) : encode s < encode t := by
  induction less with
  | @nil c s =>
    obtain ⟨b, bytes, coded⟩ := List.exists_cons_of_ne_nil (String.utf8EncodeChar_ne_nil (c := c))
    rw [encode_nil, encode_cons, coded]
    exact List.nil_lt_cons b _
  | rel less =>
    rw [encode_cons, encode_cons]
    exact encodeChar_append_lt less _ _
  | cons _ ih =>
    rw [encode_cons, encode_cons]
    exact List.append_left_lt ih

theorem Text.encode_toList_lt {s t : String} (less : s < t) :
    encode s.toList < encode t.toList :=
  encode_lt_encode (String.lt_iff_toList_lt.1 less)

end RangeTest
