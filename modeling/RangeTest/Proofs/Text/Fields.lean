import Mathlib.Data.List.Infix
import RangeTest.Text.Parts

namespace RangeTest

/-- What stands between two fields of a row. -/
def Text.separator : List Char :=
  [',', ' ']

/-- A text is split into pieces: put side by side they are the text, and no separator is left in any
of them. -/
structure Text.Split (s : List Char) (pieces : List (List Char)) : Prop where
  nonempty : pieces ≠ []
  joined : unfields pieces = s
  free : ∀ piece ∈ pieces, ¬ separator <:+: piece

theorem Text.unfields_cons {field : List Char} {rest : List (List Char)} (more : rest ≠ []) :
    unfields (field :: rest) = field ++ ',' :: ' ' :: unfields rest := by
  cases rest with
  | nil => exact absurd rfl more
  | cons => rfl

theorem Text.unfields_append {front back : List (List Char)} (left : front ≠ [])
    (right : back ≠ []) :
    unfields (front ++ back) = unfields front ++ ',' :: ' ' :: unfields back := by
  induction front with
  | nil => exact absurd rfl left
  | cons field front ih =>
    cases front with
    | nil => exact unfields_cons right
    | cons next front =>
      have longer : next :: front ++ back ≠ [] := List.cons_ne_nil _ _
      rw [List.cons_append, unfields_cons longer, ih (List.cons_ne_nil _ _),
        unfields_cons (List.cons_ne_nil _ _), List.append_assoc]
      rfl

/-- The last field of a row stands at its end. -/
theorem Text.exists_unfields_concat (front : List (List Char)) (last : List Char) :
    ∃ lead, unfields (front ++ [last]) = lead ++ last := by
  by_cases none : front = []
  · exact ⟨[], by rw [none]; rfl⟩
  · refine ⟨unfields front ++ [',', ' '], ?_⟩
    rw [unfields_append none (List.cons_ne_nil _ _), List.append_assoc]
    rfl

/-- A character in front of a row belongs to its first field unless it is the comma of a
separator. -/
theorem Text.fields_cons {c : Char} {s : List Char} (inner : ¬ separator <+: c :: s) :
    fields (c :: s) = (fields s).modifyHead (c :: ·) := by
  refine fields.eq_3 c s fun rest comma blank => inner ?_
  rw [comma, blank]
  exact List.prefix_append separator rest

/-- A separator splits a row whatever stands before it. -/
theorem Text.fields_append (s t : List Char) :
    fields (s ++ ',' :: ' ' :: t) = fields s ++ fields t := by
  fun_induction fields s with
  | case1 => rfl
  | case2 rest ih => exact congrArg ([] :: ·) ih
  | case3 c rest inner ih =>
    have stays : ¬ separator <+: c :: (rest ++ ',' :: ' ' :: t) := by
      rw [separator, List.cons_prefix_cons]
      rintro ⟨rfl, blank⟩
      cases rest with
      | nil => exact absurd (List.cons_prefix_cons.1 blank).1 (by decide)
      | cons d rest =>
        obtain ⟨rfl, -⟩ := List.cons_prefix_cons.1 blank
        exact inner rest rfl rfl
    rw [List.cons_append, fields_cons stays, ih]
    cases found : fields rest with
    | nil => exact absurd found (fields_ne_nil rest)
    | cons => rfl

theorem Text.fields_of_free {s : List Char} (free : ¬ separator <:+: s) : fields s = [s] := by
  induction s with
  | nil => rfl
  | cons c s ih =>
    rw [List.infix_cons_iff, not_or] at free
    rw [fields_cons free.1, ih free.2]
    rfl

theorem Text.free_of_mem_fields {s piece : List Char} (member : piece ∈ fields s) :
    ¬ separator <:+: piece := by
  fun_induction fields s generalizing piece with
  | case1 =>
    rw [List.mem_singleton.1 member]
    decide
  | case2 rest ih =>
    obtain rfl | later := List.mem_cons.1 member
    · decide
    · exact ih later
  | case3 c rest inner ih =>
    cases found : fields rest with
    | nil => exact absurd found (fields_ne_nil rest)
    | cons first others =>
      rw [found] at member ih
      obtain rfl | later := List.mem_cons.1 member
      · rw [List.infix_cons_iff, not_or]
        refine ⟨fun front => ?_, ih List.mem_cons_self⟩
        -- A separator that ended in the first field would have split the row.
        obtain ⟨rfl, blank⟩ := List.cons_prefix_cons.1 front
        obtain ⟨tail, rfl⟩ := blank
        have whole := unfields_fields rest
        rw [found, List.singleton_append] at whole
        cases others with
        | nil => exact inner tail rfl whole.symm
        | cons next others =>
          rw [unfields_cons (List.cons_ne_nil _ _)] at whole
          exact inner _ rfl whole.symm
      · exact ih (List.mem_cons_of_mem first later)

/-- Fields without separators are found again in the row that they make up. -/
theorem Text.fields_unfields {pieces : List (List Char)} (nonempty : pieces ≠ [])
    (free : ∀ piece ∈ pieces, ¬ separator <:+: piece) : fields (unfields pieces) = pieces := by
  induction pieces with
  | nil => exact absurd rfl nonempty
  | cons piece pieces ih =>
    rw [List.forall_mem_cons] at free
    cases pieces with
    | nil => exact fields_of_free free.1
    | cons next pieces =>
      rw [unfields_cons (List.cons_ne_nil _ _), fields_append, fields_of_free free.1,
        ih (List.cons_ne_nil _ _) free.2]
      rfl

/-- There is one way to split a text, and it gives the fields. -/
theorem Text.split_iff {s : List Char} {pieces : List (List Char)} :
    Split s pieces ↔ fields s = pieces := by
  constructor
  · rintro ⟨nonempty, rfl, free⟩
    exact fields_unfields nonempty free
  · rintro rfl
    exact ⟨fields_ne_nil s, unfields_fields s, fun _ => free_of_mem_fields⟩

end RangeTest
