import Mathlib.Algebra.Ring.Nat
import Mathlib.Data.List.Induction
import Mathlib.Data.List.TakeWhile
import RangeTest.Calendar.Reader
import RangeTest.Proofs.Record.Numeral

namespace RangeTest

/-- Digits, as many as given, and the number for which they stand. -/
structure Numeral.Fixed (width : Nat) (s : List Char) (n : Nat) : Prop where
  length : s.length = width
  spelled : Digits s n

/-- A moment that is written with two digits for each of its parts, but four for the year and six
for the fraction of the second. -/
inductive Moment.Stamp : List Char → Moment → Prop
  | intro {years months days hours minutes seconds fraction : List Char}
      {year month day hour minute second micros : Nat} :
      Numeral.Fixed 4 years year → Numeral.Fixed 2 months month → Numeral.Fixed 2 days day →
      Numeral.Fixed 2 hours hour → Numeral.Fixed 2 minutes minute →
      Numeral.Fixed 2 seconds second → Numeral.Fixed 6 fraction micros →
      Stamp (years ++ '-' :: months ++ '-' :: days ++ 'T' :: hours ++ ':' :: minutes ++
          ':' :: seconds ++ '.' :: fraction)
        ⟨year, month, day, hour, minute, second, micros * 1000⟩

/-- A date of the Gregorian calendar with a time that every day has, so without leap seconds. -/
structure Moment.Genuine (t : Moment) : Prop where
  month : 1 ≤ t.month ∧ t.month ≤ 12
  day : 1 ≤ t.day ∧ t.day ≤ 31
  short : t.month ∈ [4, 6, 9, 11] → t.day ≤ 30
  february : t.month = 2 → t.day ≤ 29
  leap : t.month = 2 → t.day = 29 → 4 ∣ t.year ∧ (100 ∣ t.year → 400 ∣ t.year)
  hour : t.hour ≤ 23
  minute : t.minute ≤ 59
  second : t.second ≤ 59

section
variable {s t : List Char} {n width : Nat}

theorem Numeral.ofDigitChars_concat (s : List Char) (c : Char) :
    Nat.ofDigitChars 10 (s ++ [c]) 0 = 10 * Nat.ofDigitChars 10 s 0 + (c.toNat - '0'.toNat) := by
  rw [Nat.ofDigitChars_append, Nat.ofDigitChars_cons, Nat.ofDigitChars_nil]

theorem Numeral.toNat_of_isDigit {c : Char} (digit : c.isDigit) :
    48 ≤ c.toNat ∧ c.toNat ≤ 57 :=
  Char.isDigit_iff_toNat.1 digit

/-- Digits stand for less than the power of ten with as many zeros. -/
theorem Numeral.ofDigitChars_lt (digits : ∀ c ∈ s, c.isDigit) :
    Nat.ofDigitChars 10 s 0 < 10 ^ s.length := by
  induction s using List.reverseRecOn with
  | nil => simp
  | append_singleton s c ih =>
    have front := ih fun d member => digits d (List.mem_append_left _ member)
    have last := toNat_of_isDigit (digits c (by simp))
    rw [ofDigitChars_concat, List.length_append, List.length_singleton, Nat.pow_succ,
      show '0'.toNat = 48 from rfl]
    omega

/-- Only one text of a length has the digits of a number. -/
theorem Numeral.eq_of_ofDigitChars_eq (digits : ∀ c ∈ s, c.isDigit) (others : ∀ c ∈ t, c.isDigit)
    (length : s.length = t.length)
    (value : Nat.ofDigitChars 10 s 0 = Nat.ofDigitChars 10 t 0) : s = t := by
  induction s using List.reverseRecOn generalizing t with
  | nil => exact (List.length_eq_zero_iff.1 length.symm).symm
  | append_singleton s c ih =>
    obtain rfl | ⟨t, d, rfl⟩ := List.eq_nil_or_concat t
    · simp at length
    · rw [List.concat_eq_append] at *
      simp only [List.length_append, List.length_singleton, Nat.add_right_cancel_iff] at length
      have last := toNat_of_isDigit (digits c (by simp))
      have otherLast := toNat_of_isDigit (others d (by simp))
      rw [ofDigitChars_concat, ofDigitChars_concat, show '0'.toNat = 48 from rfl] at value
      obtain rfl : c = d := Char.toNat_inj.1 (by omega)
      rw [ih (fun e member => digits e (List.mem_append_left _ member))
        (fun e member => others e (List.mem_append_left _ member)) length (by omega)]

theorem Numeral.Fixed.lt (fixed : Fixed width s n) : n < 10 ^ width := by
  rw [← fixed.length, ← fixed.spelled.value]
  exact ofDigitChars_lt fixed.spelled.digits

/-- A number is padded with zeros to the digits that spell it in the width. -/
theorem Numeral.Fixed.writePadded_eq (fixed : Fixed width s n) : writePadded width n = s := by
  have positive : 0 < width := fixed.length ▸ List.length_pos_iff.2 fixed.spelled.nonempty
  have fits : (write n).length ≤ width :=
    (Nat.length_toDigits_le_iff (by decide) positive).2 fixed.lt
  have digits : ∀ c ∈ writePadded width n, c.isDigit := by
    intro c member
    obtain zero | digit := List.mem_append.1 member
    · rw [List.eq_of_mem_replicate zero]
      rfl
    · exact isDigit_of_mem_write digit
  refine eq_of_ofDigitChars_eq digits fixed.spelled.digits ?_ ?_
  · rw [writePadded, List.length_append, List.length_replicate, fixed.length]
    omega
  · rw [writePadded, Nat.ofDigitChars_append, Nat.ofDigitChars_replicate_zero, Nat.mul_zero, write,
      Nat.ofDigitChars_ten_toDigits, fixed.spelled.value]

theorem Text.isBlank_of_isDigit {c : Char} (digit : c.isDigit) : isBlank c = false := by
  have bounds := Numeral.toNat_of_isDigit digit
  simp only [isBlank, Bool.or_eq_false_iff, Bool.and_eq_false_iff, decide_eq_false_iff_not,
    beq_eq_false_iff_ne]
  omega

/-- There is nothing to trim in front of digits. -/
theorem Numeral.Digits.trimStart_append (spelled : Digits s n) (rest : List Char) :
    Text.trimStart (s ++ rest) = s ++ rest := by
  obtain ⟨c, others, rfl⟩ := List.exists_cons_of_ne_nil spelled.nonempty
  have digit := spelled.digits c List.mem_cons_self
  rw [List.cons_append, Text.trimStart, List.dropWhile_cons_of_neg]
  rw [Text.isBlank_of_isDigit digit]
  exact Bool.false_ne_true

theorem Numeral.Digits.takeWhile_eq (spelled : Digits s n) : s.takeWhile Char.isDigit = s :=
  List.takeWhile_eq_self_iff.2 spelled.digits

theorem Numeral.Digits.value_eq (spelled : Digits s n) : Numeral.value 10 s = n := by
  rw [Numeral.value, ← Nat.ofDigitChars_eq_foldl, spelled.value]

theorem Numeral.Digits.isEmpty_eq (spelled : Digits s n) : s.isEmpty = false :=
  List.isEmpty_eq_false_iff.2 spelled.nonempty

theorem Numeral.Fixed.digits?_append (fixed : Fixed width s n) (rest : List Char) :
    Moment.digits? width (s ++ rest) = some (n, rest) := by
  rw [Moment.digits?, ← fixed.length, List.take_left, fixed.spelled.takeWhile_eq,
    fixed.spelled.isEmpty_eq, fixed.spelled.value_eq, List.drop_left]
  rfl

theorem Numeral.Fixed.part?_append (fixed : Fixed 2 s n) (rest : List Char) :
    Moment.part? (s ++ rest) = some (n, rest) := by
  rw [Moment.part?, fixed.spelled.trimStart_append, fixed.digits?_append]

theorem Numeral.Fixed.year?_append (fixed : Fixed 4 s n) (rest : List Char) :
    Moment.year? (s ++ rest) = some ((n : Int), rest) := by
  obtain ⟨c, others, parts⟩ := List.exists_cons_of_ne_nil fixed.spelled.nonempty
  have digit := fixed.spelled.digits c (parts ▸ List.mem_cons_self)
  rw [Moment.year?, fixed.spelled.trimStart_append]
  split
  · rename_i signed
    cases (parts ▸ signed : (c :: others) ++ rest = _)
    exact absurd digit (by decide)
  · rename_i signed
    cases (parts ▸ signed : (c :: others) ++ rest = _)
    exact absurd digit (by decide)
  · rw [fixed.digits?_append]
    rfl

theorem Numeral.Fixed.fraction?_eq (fixed : Fixed 6 s n) :
    Moment.fraction? ('.' :: s) = some (n * 1000, []) := by
  have counted : s.take 9 = s := List.take_of_length_le (by rw [fixed.length]; decide)
  have whole : s.drop 6 = [] := List.drop_eq_nil_of_le fixed.length.le
  simp only [Moment.fraction?, fixed.spelled.takeWhile_eq, counted, fixed.spelled.isEmpty_eq,
    fixed.spelled.value_eq, fixed.length, whole]
  rfl

end

theorem Moment.mark?_cons (c : Char) (rest : List Char) : mark? c (c :: rest) = some rest :=
  if_pos rfl

theorem Moment.isLeapYear_iff {year : Int} :
    isLeapYear year ↔ 4 ∣ year ∧ (100 ∣ year → 400 ∣ year) := by
  simp only [isLeapYear, Bool.and_eq_true, Bool.or_eq_true, beq_iff_eq, bne_iff_ne]
  omega

/-- No month of a genuine moment is exceeded. -/
theorem Moment.Genuine.day_le {t : Moment} (genuine : t.Genuine) :
    t.day ≤ daysInMonth t.year t.month := by
  rw [daysInMonth]
  split
  · rename_i february
    split
    · exact genuine.february february
    · rename_i common
      refine Nat.le_of_lt_succ (lt_of_le_of_ne (genuine.february february) fun last => ?_)
      exact common (isLeapYear_iff.2 (genuine.leap february last))
  · split
    · rename_i short
      exact genuine.short (by simpa using short)
    · exact genuine.day.2

/-- A genuine moment counts as valid if its year is among those that can be named. -/
theorem Moment.Genuine.isValid {t : Moment} (genuine : t.Genuine) (after : 0 ≤ t.year)
    (before : t.year ≤ 9999) (fraction : t.nanosecond < 1000000000) : t.isValid = true := by
  have earliest : yearRange.1 ≤ t.year := by
    dsimp only [yearRange]
    omega
  have latest : t.year ≤ yearRange.2 := by
    dsimp only [yearRange]
    omega
  simp only [Moment.isValid, Bool.and_eq_true, decide_eq_true_eq]
  exact ⟨⟨⟨⟨⟨⟨⟨⟨⟨earliest, latest⟩, genuine.month.1⟩, genuine.month.2⟩, genuine.day.1⟩,
    genuine.day_le⟩, genuine.hour⟩, genuine.minute⟩, Nat.le_succ_of_le genuine.second⟩, fraction⟩

section
variable {text : List Char} {t : Moment}

theorem Moment.Stamp.length_eq (stamp : Stamp text t) : text.length = 26 := by
  cases stamp with
  | intro year month day hour minute second fraction =>
    simp only [List.length_append, List.length_cons, year.length, month.length, day.length,
      hour.length, minute.length, second.length, fraction.length]

/-- A stamp holds digits and the marks between its parts. -/
theorem Moment.Stamp.digit_or_mark (stamp : Stamp text t) {c : Char} (member : c ∈ text) :
    c.isDigit ∨ c ∈ ['-', 'T', ':', '.'] := by
  cases stamp with
  | intro year month day hour minute second fraction =>
    have digit {width n : Nat} {s : List Char} (part : Numeral.Fixed width s n) (inside : c ∈ s) :
        c.isDigit ∨ c ∈ ['-', 'T', ':', '.'] := Or.inl (part.spelled.digits c inside)
    simp only [List.mem_append, List.mem_cons] at member
    rcases member with (((((inside | rfl | inside) | rfl | inside) | rfl | inside) | rfl | inside) |
      rfl | inside) | rfl | inside
    · exact digit year inside
    · simp
    · exact digit month inside
    · simp
    · exact digit day inside
    · simp
    · exact digit hour inside
    · simp
    · exact digit minute inside
    · simp
    · exact digit second inside
    · simp
    · exact digit fraction inside

/-- A stamp is read as the moment for which it stands. -/
theorem Moment.Stamp.read?_eq (stamp : Stamp text t) (genuine : t.Genuine) :
    read? text = some t := by
  cases stamp with
  | @intro _ _ _ _ _ _ _ _ _ _ _ _ _ micros year month day hour minute second fraction =>
    have years := year.lt
    have billion := fraction.lt
    have valid := genuine.isValid (Int.natCast_nonneg _) (by dsimp only; omega)
      (by dsimp only; omega)
    simp only [List.append_assoc, List.cons_append]
    refine Option.bind_eq_some_iff.2 ⟨_, year.year?_append _, ?_⟩
    refine Option.bind_eq_some_iff.2 ⟨_, mark?_cons _ _, ?_⟩
    refine Option.bind_eq_some_iff.2 ⟨_, month.part?_append _, ?_⟩
    refine Option.bind_eq_some_iff.2 ⟨_, mark?_cons _ _, ?_⟩
    refine Option.bind_eq_some_iff.2 ⟨_, day.part?_append _, ?_⟩
    refine Option.bind_eq_some_iff.2 ⟨_, mark?_cons _ _, ?_⟩
    refine Option.bind_eq_some_iff.2 ⟨_, hour.part?_append _, ?_⟩
    refine Option.bind_eq_some_iff.2 ⟨_, mark?_cons _ _, ?_⟩
    refine Option.bind_eq_some_iff.2 ⟨_, minute.part?_append _, ?_⟩
    refine Option.bind_eq_some_iff.2 ⟨_, mark?_cons _ _, ?_⟩
    refine Option.bind_eq_some_iff.2 ⟨_, second.part?_append _, ?_⟩
    refine Option.bind_eq_some_iff.2 ⟨_, fraction.fraction?_eq, ?_⟩
    exact if_pos valid

/-- A moment is written as its stamp. -/
theorem Moment.Stamp.write_eq (stamp : Stamp text t) : t.write 6 = text := by
  cases stamp with
  | @intro _ _ _ _ _ _ _ _ _ _ _ _ _ micros year month day hour minute second fraction =>
    have years := year.lt
    have plain : micros * 1000 / Nat.pow 10 (9 - 6) = micros :=
      Nat.mul_div_cancel micros (by decide)
    rw [write, writeYear, if_pos ⟨Int.natCast_nonneg _, by dsimp only; omega⟩]
    simp only [Int.toNat_natCast, plain, year.writePadded_eq, month.writePadded_eq,
      day.writePadded_eq, hour.writePadded_eq, minute.writePadded_eq, second.writePadded_eq,
      fraction.writePadded_eq]

end

end RangeTest
