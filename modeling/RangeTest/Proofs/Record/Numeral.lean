import RangeTest.Numeral

namespace RangeTest

theorem Numeral.write_ne_nil (n : Nat) : write n ≠ [] :=
  Nat.toDigits_ne_nil

theorem Numeral.isDigit_of_mem_write {n : Nat} {c : Char} (member : c ∈ write n) : c.isDigit :=
  Nat.isDigit_of_mem_toDigits (by decide) (by decide) member

/-- A written number reads back. -/
@[simp] theorem Numeral.natural?_write (n : Nat) : natural? (write n) = some n := by
  have nonempty : (write n).isEmpty = false := List.isEmpty_eq_false_iff.2 (write_ne_nil n)
  have digits : (write n).all Char.isDigit = true :=
    List.all_eq_true.2 fun _ member => isDigit_of_mem_write member
  have number : value 10 (write n) = n := by
    rw [value, ← Nat.ofDigitChars_eq_foldl, write, Nat.ofDigitChars_ten_toDigits]
  rw [natural?, nonempty, digits, number]
  rfl

theorem Numeral.write_inj {n m : Nat} (same : write n = write m) : n = m := by
  have read := congrArg natural? same
  rw [natural?_write, natural?_write] at read
  exact Option.some.inj read

@[simp] theorem Numeral.unsigned?_write (n : UInt32) : unsigned? (write n.toNat) = some n := by
  rw [unsigned?, natural?_write]
  simp only [n.toNat_lt_size, if_true, UInt32.ofNat_toNat]

/-- A number that is written without a sign is read without one. -/
theorem Numeral.unsign_write (n : Nat) : unsign (write n) = (false, write n) := by
  cases written : write n with
  | nil => exact absurd written (write_ne_nil n)
  | cons c rest =>
    have digit : c.isDigit := isDigit_of_mem_write (written ▸ List.mem_cons_self)
    unfold unsign
    split
    · rename_i same
      cases same
      exact absurd digit (by decide)
    · rename_i same
      cases same
      exact absurd digit (by decide)
    · rfl

@[simp] theorem Numeral.integer?_writeInt (z : Int) : integer? (writeInt z) = some z := by
  cases z with
  | ofNat n => simp [writeInt, integer?, unsign_write]
  | negSucc n => simp [writeInt, integer?, unsign, Int.negSucc_eq]

theorem Numeral.writeInt_ne_nil (z : Int) : writeInt z ≠ [] := by
  cases z with
  | ofNat n => exact write_ne_nil n
  | negSucc n => exact List.cons_ne_nil _ _

@[simp] theorem Numeral.signed?_writeInt (n : Int32) : signed? (writeInt n.toInt) = some n := by
  rw [signed?, integer?_writeInt]
  have lower := n.le_toInt
  have upper := n.toInt_lt
  have bounds : Int32.minValue.toInt ≤ n.toInt ∧ n.toInt ≤ Int32.maxValue.toInt :=
    ⟨lower, Int.le_of_lt_add_one upper⟩
  simp only [bounds, and_self, if_true, Int32.ofInt_toInt]

/-- One or more digits, and the number for which they stand. -/
structure Numeral.Digits (s : List Char) (n : Nat) : Prop where
  nonempty : s ≠ []
  digits : ∀ c ∈ s, c.isDigit
  value : Nat.ofDigitChars 10 s 0 = n

/-- Digits behind one sign at most, and the number for which they stand. -/
inductive Numeral.SignedDigits : List Char → Int → Prop
  | plain {s : List Char} {n : Nat} : Digits s n → SignedDigits s n
  | plus {s : List Char} {n : Nat} : Digits s n → SignedDigits ('+' :: s) n
  | minus {s : List Char} {n : Nat} : Digits s n → SignedDigits ('-' :: s) (-n)

theorem Numeral.natural?_eq_some_iff {s : List Char} {n : Nat} :
    natural? s = some n ↔ Digits s n := by
  have number : value 10 s = Nat.ofDigitChars 10 s 0 := Nat.ofDigitChars_eq_foldl.symm
  rw [natural?, number]
  constructor
  · intro read
    split at read
    · cases read
    · split at read
      · rename_i nonempty digits
        cases read
        exact ⟨fun empty => nonempty (List.isEmpty_iff.2 empty), List.all_eq_true.1 digits, rfl⟩
      · cases read
  · rintro ⟨nonempty, digits, rfl⟩
    rw [if_neg (mt List.isEmpty_iff.1 nonempty), if_pos (List.all_eq_true.2 digits)]

/-- Digits alone have no sign in front of them. -/
theorem Numeral.Digits.unsign_eq {s : List Char} {n : Nat} (spelled : Digits s n) :
    unsign s = (false, s) := by
  unfold unsign
  split
  · exact absurd (spelled.digits _ List.mem_cons_self) (by decide)
  · exact absurd (spelled.digits _ List.mem_cons_self) (by decide)
  · rfl

theorem Numeral.integer?_eq (s : List Char) :
    integer? s = (natural? (unsign s).2).map fun n : Nat =>
      if (unsign s).1 then -(n : Int) else (n : Int) := by
  unfold integer?
  obtain ⟨negative, digits⟩ := unsign s
  dsimp only
  cases natural? digits <;> rfl

theorem Numeral.integer?_eq_some_iff {s : List Char} {z : Int} :
    integer? s = some z ↔ SignedDigits s z := by
  constructor
  · rw [integer?_eq, Option.map_eq_some_iff]
    rintro ⟨n, digits, rfl⟩
    rw [natural?_eq_some_iff] at digits
    revert digits
    unfold unsign
    split
    · exact .minus
    · exact .plus
    · exact .plain
  · rintro (spelled | spelled | spelled)
    · simp [integer?, spelled.unsign_eq, natural?_eq_some_iff.2 spelled]
    · simp [integer?, unsign, natural?_eq_some_iff.2 spelled]
    · simp [integer?, unsign, natural?_eq_some_iff.2 spelled]

/-- Just the digits are read whose number is within 32 bits. -/
theorem Numeral.unsigned?_eq_some_iff {s : List Char} {n : UInt32} :
    unsigned? s = some n ↔ Digits s n.toNat := by
  rw [← natural?_eq_some_iff, unsigned?]
  cases natural? s with
  | none => simp
  | some m =>
    by_cases small : m < UInt32.size
    · simp only [small, if_true, Option.some.injEq]
      constructor
      · rintro rfl
        exact (UInt32.toNat_ofNat_of_lt' small).symm
      · rintro rfl
        exact UInt32.ofNat_toNat
    · simp only [small, if_false, Option.some.injEq]
      exact iff_of_false nofun fun same => small (same ▸ n.toNat_lt_size)

theorem Numeral.signed?_eq_some_iff {s : List Char} {n : Int32} :
    signed? s = some n ↔ SignedDigits s n.toInt := by
  rw [← integer?_eq_some_iff, signed?]
  have lower : Int32.minValue.toInt ≤ n.toInt := n.le_toInt
  have upper : n.toInt ≤ Int32.maxValue.toInt := Int.le_of_lt_add_one n.toInt_lt
  cases integer? s with
  | none => simp
  | some z =>
    by_cases bounds : Int32.minValue.toInt ≤ z ∧ z ≤ Int32.maxValue.toInt
    · simp only [bounds, and_self, if_true, Option.some.injEq]
      constructor
      · rintro rfl
        exact (Int32.toInt_ofInt_of_le bounds.1 (Int.lt_add_one_of_le bounds.2)).symm
      · rintro rfl
        exact Int32.ofInt_toInt n
    · simp only [bounds, if_false, Option.some.injEq]
      exact iff_of_false nofun fun same => bounds (same ▸ ⟨lower, upper⟩)

end RangeTest
