import Mathlib.Data.List.Induction
import RangeTest.Frame

namespace RangeTest

/-- The digits of base sixteen in the order of their values. -/
def Numeral.hexAlphabet : List Char :=
  "0123456789abcdef".toList

/-- One or more hexadecimal digits of either case, and the number for which they stand. -/
inductive Numeral.HexDigits : List Char → Nat → Prop
  | digit {c : Char} {d : Nat} : hexAlphabet.idxOf? c.toLower = some d → HexDigits [c] d
  | next {s : List Char} {n : Nat} {c : Char} {d : Nat} : HexDigits s n →
      hexAlphabet.idxOf? c.toLower = some d → HexDigits (s ++ [c]) (16 * n + d)

theorem Numeral.hexDigit?_ascii : ∀ n < 128,
    hexDigit? (Char.ofNat n) = hexAlphabet.idxOf? (Char.ofNat n).toLower := by
  decide +kernel

/-- The value of a digit is its place in the alphabet, whatever its case. -/
theorem Numeral.hexDigit?_eq (c : Char) : hexDigit? c = hexAlphabet.idxOf? c.toLower := by
  by_cases ascii : c.toNat < 128
  · have here := hexDigit?_ascii c.toNat ascii
    rwa [Char.ofNat_toNat] at here
  · have beyond (d : Char) (short : d.toNat < 128) : ¬ c ≤ d := fun le =>
      ascii (Nat.lt_of_le_of_lt (UInt32.le_iff_toNat_le.1 le) short)
    have lower : c.toLower = c := dif_neg fun upper => beyond 'Z' (by decide) upper.2
    have short : hexAlphabet.all (·.toNat < 128) := by decide
    have outside : c ∉ hexAlphabet := fun member =>
      ascii (of_decide_eq_true (List.all_eq_true.1 short c member))
    have digit : c.isDigit = false := by
      rw [Char.isDigit, Bool.and_eq_false_iff]
      exact Or.inr (decide_eq_false (beyond '9' (by decide)))
    rw [lower, List.idxOf?_eq_none_iff.2 outside, hexDigit?, digit, if_neg Bool.false_ne_true,
      if_neg fun small => beyond 'f' (by decide) small.2,
      if_neg fun capital => beyond 'F' (by decide) capital.2]

theorem Numeral.hex?_singleton (c : Char) : hex? [c] = hexDigit? c := by
  rw [hex?]
  cases value : hexDigit? c <;> simp [value]

theorem Numeral.hex?_concat {s : List Char} (nonempty : s ≠ []) (c : Char) :
    hex? (s ++ [c]) = (hex? s).bind fun n => (hexDigit? c).map fun d => 16 * n + d := by
  have longer : (s ++ [c]).isEmpty = false := by simp
  rw [hex?, hex?, longer, List.isEmpty_eq_false_iff.2 nonempty, List.mapM_append]
  cases s.mapM hexDigit? with
  | none => rfl
  | some digits => cases value : hexDigit? c <;> simp [value]

/-- Just the digits are read, as the number for which they stand. -/
theorem Numeral.hex?_eq_some_iff {s : List Char} {n : Nat} : hex? s = some n ↔ HexDigits s n := by
  constructor
  · intro read
    induction s using List.reverseRecOn generalizing n with
    | nil => cases read
    | append_singleton s c ih =>
      by_cases alone : s = []
      · subst alone
        rw [List.nil_append, hex?_singleton, hexDigit?_eq] at read
        exact .digit read
      · rw [hex?_concat alone, Option.bind_eq_some_iff] at read
        obtain ⟨front, before, read⟩ := read
        obtain ⟨d, last, rfl⟩ := Option.map_eq_some_iff.1 read
        exact .next (ih before) (hexDigit?_eq c ▸ last)
  · intro digits
    induction digits with
    | digit place => rw [hex?_singleton, hexDigit?_eq, place]
    | @next s n c d before place ih =>
      have nonempty : s ≠ [] := by cases before <;> simp
      rw [hex?_concat nonempty, ih, hexDigit?_eq, place]
      rfl

theorem Numeral.HexDigits.mem_alphabet {s : List Char} {n : Nat} (digits : HexDigits s n) :
    ∀ c ∈ s, c.toLower ∈ hexAlphabet := by
  have member {c : Char} {d : Nat} (place : hexAlphabet.idxOf? c.toLower = some d) :
      c.toLower ∈ hexAlphabet := by
    by_contra outside
    cases place.symm.trans (List.idxOf?_eq_none_iff.2 outside)
  induction digits with
  | digit place => exact List.forall_mem_singleton.2 (member place)
  | next _ place ih =>
    exact List.forall_mem_append.2 ⟨ih, List.forall_mem_singleton.2 (member place)⟩

/-- What may stand in front of a number to say that it is hexadecimal. -/
def Frame.hexMarks : List (List Char) :=
  [[], ['0', 'x'], ['0', 'X']]

/-- Apart from blanks around it, a text is a hexadecimal mark, a sign and digits. -/
inductive Frame.Spells (sign : List Char) (text : String) (n : Nat) : Prop
  | intro {mark digits : List Char} : mark ∈ hexMarks →
      Text.trim text.toList = mark ++ sign ++ digits → Numeral.HexDigits digits n →
      Spells sign text n

theorem Frame.exists_withoutHexMark (s : List Char) :
    ∃ mark ∈ hexMarks, s = mark ++ withoutHexMark s := by
  unfold withoutHexMark
  split
  · exact ⟨['0', 'x'], by decide, rfl⟩
  · exact ⟨['0', 'X'], by decide, rfl⟩
  · exact ⟨[], by decide, rfl⟩

theorem Frame.exists_withoutPlus (s : List Char) :
    ∃ sign, (sign = [] ∨ sign = ['+']) ∧ s = sign ++ withoutPlus s := by
  unfold withoutPlus
  split
  · exact ⟨['+'], Or.inr rfl, rfl⟩
  · exact ⟨[], Or.inl rfl, rfl⟩

/-- Digits do not begin with a mark or a plus, so that the ways to take a text apart are one. -/
theorem Frame.withoutPlus_withoutHexMark {mark sign digits : List Char} {n : Nat}
    (marked : mark ∈ hexMarks) (signed : sign = [] ∨ sign = ['+'])
    (spelled : Numeral.HexDigits digits n) :
    withoutPlus (withoutHexMark (mark ++ sign ++ digits)) = digits := by
  have member := spelled.mem_alphabet
  have plain : withoutPlus digits = digits := by
    unfold withoutPlus
    split
    · exact absurd (member '+' List.mem_cons_self) (by decide)
    · rfl
  have unsigned : withoutPlus (sign ++ digits) = digits := by
    rcases signed with rfl | rfl
    · exact plain
    · rfl
  have unmarked : withoutHexMark (sign ++ digits) = sign ++ digits := by
    rcases signed with rfl | rfl
    · rw [List.nil_append]
      unfold withoutHexMark
      split
      · exact absurd (member 'x' (by simp)) (by decide)
      · exact absurd (member 'X' (by simp)) (by decide)
      · rfl
    · rfl
  rw [List.append_assoc]
  simp only [hexMarks, List.mem_cons, List.not_mem_nil, or_false] at marked
  rcases marked with rfl | rfl | rfl
  · rw [List.nil_append, unmarked, unsigned]
  · exact unsigned
  · exact unsigned

/-- Which polynomials are read: those of 64 bits, and a plus may stand in front of the digits. -/
theorem Frame.polynomial?_eq_some_iff {text : String} {n : Nat} :
    polynomial? text = some n ↔ n < UInt64.size ∧ (Spells [] text n ∨ Spells ['+'] text n) := by
  have digits : Numeral.hex? (withoutPlus (withoutHexMark (Text.trim text.toList))) = some n ↔
      Spells [] text n ∨ Spells ['+'] text n := by
    rw [Numeral.hex?_eq_some_iff]
    constructor
    · intro spelled
      obtain ⟨mark, marked, whole⟩ := exists_withoutHexMark (Text.trim text.toList)
      obtain ⟨sign, signed, rest⟩ := exists_withoutPlus (withoutHexMark (Text.trim text.toList))
      rw [rest, ← List.append_assoc] at whole
      rcases signed with rfl | rfl
      · exact Or.inl (.intro marked whole spelled)
      · exact Or.inr (.intro marked whole spelled)
    · rintro (⟨marked, whole, spelled⟩ | ⟨marked, whole, spelled⟩)
      · rwa [whole, withoutPlus_withoutHexMark marked (Or.inl rfl) spelled]
      · rwa [whole, withoutPlus_withoutHexMark marked (Or.inr rfl) spelled]
  rw [← digits, polynomial?]
  cases Numeral.hex? (withoutPlus (withoutHexMark (Text.trim text.toList))) with
  | none => simp
  | some m =>
    by_cases small : m < UInt64.size
    · simp only [small, if_true, Option.some.injEq]
      exact ⟨fun same => ⟨same ▸ small, same⟩, And.right⟩
    · simp only [small, if_false, Option.some.injEq]
      exact iff_of_false nofun fun both => small (both.2 ▸ both.1)

theorem Frame.crcBytes_eq_ok_iff {text : String} {width : Nat} :
    crcBytes text = .ok width ↔ ∃ n, polynomial? text = some n ∧ width = byteWidth n := by
  rw [crcBytes]
  cases polynomial? text with
  | none => exact ⟨nofun, fun ⟨_, impossible, _⟩ => nomatch impossible⟩
  | some n =>
    constructor
    · exact fun same => ⟨n, rfl, (Except.ok.inj same).symm⟩
    · rintro ⟨_, ⟨⟩, rfl⟩
      rfl

theorem Frame.crcBytes_eq_error_iff {text : String} {error : ExportError} :
    crcBytes text = .error error ↔ polynomial? text = none ∧ error = .invalidCrcPoly text := by
  rw [crcBytes]
  cases polynomial? text with
  | none =>
    constructor
    · exact fun same => ⟨rfl, (Except.error.inj same).symm⟩
    · rintro ⟨-, rfl⟩
      rfl
  | some n => exact ⟨nofun, fun both => nomatch both.1⟩

/-- A CRC polynomial is taken if and only if it is written in hexadecimal with a value of 64 bits,
where a plus may stand behind the mark. Anything else is an error that names the text. -/
theorem Frame.crcBytes_decided (text : String) :
    (∀ width, crcBytes text = .ok width ↔
        ∃ n < UInt64.size, (Spells [] text n ∨ Spells ['+'] text n) ∧ width = byteWidth n) ∧
      ∀ error, crcBytes text = .error error ↔
        (∀ n < UInt64.size, ¬ Spells [] text n ∧ ¬ Spells ['+'] text n) ∧
          error = .invalidCrcPoly text := by
  constructor
  · intro width
    simp only [crcBytes_eq_ok_iff, polynomial?_eq_some_iff, and_assoc]
  · intro error
    rw [crcBytes_eq_error_iff]
    refine and_congr_left fun _ => ?_
    rw [Option.eq_none_iff_forall_ne_some]
    refine forall_congr' fun n => ?_
    rw [Ne, polynomial?_eq_some_iff, not_and, not_or]

/-- A sign is not a hexadecimal digit, but a plus is passed over. -/
theorem Frame.plus_passed_over :
    crcBytes "0x+8005" = .ok 2 ∧ ∀ n, ¬ Spells [] "0x+8005" n := by
  refine ⟨by decide +kernel, ?_⟩
  rintro n ⟨marked, whole, spelled⟩
  have signed : '+' ∈ Text.trim "0x+8005".toList := by decide +kernel
  rw [whole, List.append_nil, List.mem_append] at signed
  rcases signed with inMark | inDigits
  · exact absurd inMark ((by decide : ∀ mark ∈ hexMarks, '+' ∉ mark) _ marked)
  · exact absurd (spelled.mem_alphabet '+' inDigits) (by decide)

end RangeTest
