import Mathlib.Data.List.DropRight
import RangeTest.Text.Parts

namespace RangeTest

section
variable {c : Char} {s : List Char}

theorem Text.stretches_ne_nil (s : List Char) : stretches s ≠ [] := by
  cases s with
  | nil => exact List.cons_ne_nil _ _
  | cons c s =>
    rw [stretches]
    split
    · exact List.cons_ne_nil _ _
    · cases rest : stretches s with
      | nil => exact absurd rest (stretches_ne_nil s)
      | cons stretch more => exact List.cons_ne_nil _ _

/-- A blank divides the stretches in front of it from those behind it. -/
theorem Text.stretches_append_blank (blank : isBlank c = true) (s t : List Char) :
    stretches (s ++ c :: t) = stretches s ++ stretches t := by
  induction s with
  | nil => simp [stretches, blank]
  | cons d s ih =>
    rw [List.cons_append, stretches, stretches, ih]
    split
    · rfl
    · cases rest : stretches s with
      | nil => exact absurd rest (stretches_ne_nil s)
      | cons stretch more => rfl

theorem Text.words_append_blank (blank : isBlank c = true) (s t : List Char) :
    words (s ++ c :: t) = words s ++ words t := by
  rw [words, words, words, stretches_append_blank blank, List.filter_append]

theorem Text.words_trimStart (s : List Char) : words (trimStart s) = words s := by
  induction s with
  | nil => rfl
  | cons c s ih =>
    rw [trimStart, List.dropWhile_cons]
    split
    · rename_i blank
      rw [← trimStart, ih]
      exact (words_append_blank blank [] s).symm
    · rfl

theorem Text.words_trimEnd (s : List Char) : words (trimEnd s) = words s := by
  induction s using List.reverseRecOn with
  | nil => rfl
  | append_singleton s c ih =>
    have trimmed : trimEnd (s ++ [c]) = if isBlank c then trimEnd s else s ++ [c] :=
      List.rdropWhile_concat isBlank s c
    rw [trimmed]
    split
    · rename_i blank
      rw [ih, words_append_blank blank]
      exact (List.append_nil _).symm
    · rfl

/-- The blanks around a text do not matter for its words. -/
theorem Text.words_trim (s : List Char) : words (trim s) = words s := by
  rw [trim, words_trimEnd, words_trimStart]

/-- Of a blank text nothing is left by trimming, and of no other. -/
theorem Text.trim_eq_nil_iff : trim s = [] ↔ ∀ c ∈ s, isBlank c = true := by
  have back : trim s = [] ↔ ∀ c ∈ trimStart s, isBlank c = true := List.rdropWhile_eq_nil_iff
  rw [back, ← List.dropWhile_eq_nil_iff, trimStart, List.dropWhile_idempotent,
    List.dropWhile_eq_nil_iff]

end

end RangeTest
