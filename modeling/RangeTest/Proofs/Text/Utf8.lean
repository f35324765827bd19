import Mathlib.Data.List.Basic

namespace RangeTest

/-- The UTF-8 bytes of a text. -/
def Text.encode (s : List Char) : List UInt8 :=
  s.flatMap String.utf8EncodeChar

@[simp] theorem Text.encode_nil : encode [] = [] :=
  rfl

@[simp] theorem Text.encode_cons (c : Char) (s : List Char) :
    encode (c :: s) = String.utf8EncodeChar c ++ encode s :=
  List.flatMap_cons

@[simp] theorem Text.encode_append (s t : List Char) : encode (s ++ t) = encode s ++ encode t :=
  List.flatMap_append

theorem Text.encode_eq_nil {s : List Char} (empty : encode s = []) : s = [] := by
  cases s with
  | nil => rfl
  | cons c s => exact absurd (List.append_eq_nil_iff.1 empty).1 String.utf8EncodeChar_ne_nil

theorem Text.data_toUTF8 (s : String) : s.toUTF8.data.toList = encode s.toList := by
  rw [String.toUTF8_eq_toByteArray, ← String.utf8Encode_toList, List.utf8Encode,
    List.data_toByteArray, encode]

theorem Text.fromUTF8?_toUTF8 (s : String) : String.fromUTF8? s.toUTF8 = some s := by
  have valid : s.toUTF8.IsValidUTF8 := by
    rw [String.toUTF8_eq_toByteArray]
    exact s.isValidUTF8
  rw [String.fromUTF8?, dif_pos valid]
  rfl

/-- A byte of seven bits is the whole of its character. -/
theorem Text.toNat_of_mem_encodeChar {b : UInt8} {c : Char} (short : b.toNat < 128)
    (member : b ∈ String.utf8EncodeChar c) : c.toNat = b.toNat := by
  have value : c.toNat = c.val.toNat := rfl
  simp only [String.utf8EncodeChar] at member
  split_ifs at member
  all_goals
    simp only [List.mem_cons, List.not_mem_nil, or_false, ← UInt8.toNat_inj,
      UInt8.toNat_ofNat'] at member
    omega

theorem Text.mem_encode_of_short {b : UInt8} {c : Char} {s : List Char} (short : b.toNat < 128)
    (same : c.toNat = b.toNat) (member : b ∈ encode s) : c ∈ s := by
  obtain ⟨d, inside, coded⟩ := List.mem_flatMap.1 member
  have equal : c = d := Char.toNat_inj.1 (same.trans (toNat_of_mem_encodeChar short coded).symm)
  exact equal ▸ inside

end RangeTest
