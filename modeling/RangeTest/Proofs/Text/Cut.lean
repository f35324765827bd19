import RangeTest.Proofs.Text.Lines
import RangeTest.Text.Parts

namespace RangeTest

/-- Between two texts a mark stands for the first time. -/
def Text.FirstMark (mark lead rest : List Char) : Prop :=
  ∀ before after, lead ++ mark ++ rest = before ++ mark ++ after → lead.length ≤ before.length

section
variable {mark lead rest before after s : List Char}

theorem Text.cut?_isSome (occurs : mark <:+: s) : (cut? mark s).isSome := by
  obtain ⟨before, after, rfl⟩ := occurs
  induction before with
  | nil =>
    cases mark with
    | nil => cases after <;> rfl
    | cons c mark =>
      have front : (c :: mark).isPrefixOf (c :: (mark ++ after)) = true :=
        List.isPrefixOf_iff_prefix.2 (List.prefix_append (c :: mark) after)
      rw [List.nil_append, List.cons_append, cut?, if_pos front]
      rfl
  | cons c before ih =>
    rw [List.cons_append, List.cons_append, cut?]
    split
    · rfl
    · rw [Option.isSome_map, ih]

theorem Text.cut?_eq_none_iff : cut? mark s = none ↔ ¬ mark <:+: s := by
  refine ⟨fun whole occurs => ?_, fun absent => ?_⟩
  · have found := cut?_isSome occurs
    rw [whole] at found
    cases found
  · cases cut : cut? mark s with
    | none => rfl
    | some parts => exact absurd ⟨parts.1, parts.2, (eq_append_of_cut? cut).symm⟩ absent

/-- No occurrence comes before the one at which a text is cut. -/
theorem Text.firstMark_of_cut? (cut : cut? mark s = some (before, after)) :
    FirstMark mark before after := by
  intro other following
  rw [← eq_append_of_cut? cut]
  intro split
  induction s generalizing before other with
  | nil =>
    cases mark with
    | nil =>
      cases cut
      exact Nat.zero_le _
    | cons => cases cut
  | cons c s ih =>
    rw [cut?] at cut
    split at cut
    · cases cut
      exact Nat.zero_le _
    · rename_i absent
      obtain ⟨⟨front, back⟩, inner, pair⟩ := Option.map_eq_some_iff.1 cut
      cases pair
      cases other with
      | nil =>
        rw [split] at absent
        exact absurd (List.isPrefixOf_iff_prefix.2 (List.prefix_append mark following)) absent
      | cons d other =>
        exact Nat.succ_le_succ (ih inner other (List.cons.inj split).2)

/-- A text is cut at the first occurrence of the mark. -/
theorem Text.cut?_append (first : FirstMark mark lead rest) :
    cut? mark (lead ++ mark ++ rest) = some (lead, rest) := by
  have found : (cut? mark (lead ++ mark ++ rest)).isSome := cut?_isSome ⟨lead, rest, rfl⟩
  obtain ⟨⟨before, after⟩, cut⟩ := Option.isSome_iff_exists.1 found
  have split := eq_append_of_cut? cut
  have same : lead.length = before.length := by
    refine Nat.le_antisymm (first before after split) ?_
    exact firstMark_of_cut? cut lead rest split.symm
  rw [List.append_assoc, List.append_assoc] at split
  obtain ⟨rfl, tails⟩ := List.append_inj split same
  rw [cut, List.append_cancel_left tails]

theorem Text.FirstMark.shorten (first : FirstMark mark lead rest) (kept : after <+: rest) :
    FirstMark mark lead after := by
  obtain ⟨more, rfl⟩ := kept
  intro before following split
  refine first before (following ++ more) ?_
  rw [← List.append_assoc, split, List.append_assoc]

/-- What follows a mark does not matter for whether it is the first one. -/
theorem Text.FirstMark.lengthen (first : FirstMark mark lead []) : FirstMark mark lead rest := by
  intro before following split
  by_contra short
  have within : before ++ mark <+: lead ++ mark := by
    refine List.prefix_of_prefix_length_le ⟨following, split.symm⟩ (List.prefix_append _ rest) ?_
    simp only [List.length_append]
    omega
  obtain ⟨tail, whole⟩ := within
  exact short (first before tail (by rw [whole, List.append_nil]))

/-- A mark that trimming does not reach stays where it is. -/
theorem Text.cut?_trimEnd_of_le (first : FirstMark mark lead rest)
    (marked : mark.length ≤ (trimEnd (mark ++ rest)).length) :
    cut? mark (trimEnd (lead ++ mark ++ rest)) =
      some (lead, (trimEnd (mark ++ rest)).drop mark.length) := by
  obtain ⟨blanks, whole⟩ := isPrefix_trimEnd (mark ++ rest)
  obtain ⟨kept, here⟩ : mark <+: trimEnd (mark ++ rest) :=
    List.prefix_of_prefix_length_le (List.prefix_append mark rest) ⟨blanks, whole⟩ marked
  have trimmed : trimEnd (lead ++ mark ++ rest) = lead ++ mark ++ kept := by
    rw [List.append_assoc, trimEnd_append, ← here, List.append_assoc]
    split
    · rename_i empty
      -- An empty mark stands first where the text begins.
      obtain ⟨rfl, rfl⟩ := List.append_eq_nil_iff.1 empty
      have bare := first [] (lead ++ rest) (by rw [List.append_nil]; rfl)
      rw [List.length_eq_zero_iff.1 (Nat.le_zero.1 bare)]
      rfl
    · rfl
  have remains : mark ++ (kept ++ blanks) = mark ++ rest := by
    rw [← List.append_assoc, here, whole]
  have earliest := first.shorten ⟨blanks, List.append_cancel_left remains⟩
  rw [trimmed, cut?_append earliest, ← here, List.drop_left]

/-- Where trimming cuts into the first mark, no other mark is left. -/
theorem Text.cut?_trimEnd_of_lt (first : FirstMark mark lead rest)
    (reached : (trimEnd (mark ++ rest)).length < mark.length) :
    cut? mark (trimEnd (lead ++ mark ++ rest)) = none := by
  refine Option.not_isSome_iff_eq_none.1 fun found => ?_
  obtain ⟨⟨before, after⟩, cut⟩ := Option.isSome_iff_exists.1 found
  obtain ⟨gone, trimmed⟩ := isPrefix_trimEnd (lead ++ mark ++ rest)
  rw [eq_append_of_cut? cut] at trimmed
  have late := first before (after ++ gone) (by rw [← trimmed]; simp)
  have short := length_trimEnd_append_le lead (mark ++ rest)
  rw [← List.append_assoc, eq_append_of_cut? cut] at short
  simp only [List.length_append] at short
  omega

/-- Where a text is cut that lost the blanks at its end. Only what is left of the mark and of the
text behind it decides whether there is a cut at all. -/
theorem Text.cut?_trimEnd (first : FirstMark mark lead rest) :
    cut? mark (trimEnd (lead ++ mark ++ rest)) =
      if mark.length ≤ (trimEnd (mark ++ rest)).length then
        some (lead, (trimEnd (mark ++ rest)).drop mark.length)
      else none := by
  split
  · exact cut?_trimEnd_of_le first ‹_›
  · exact cut?_trimEnd_of_lt first (Nat.lt_of_not_le ‹_›)

end

end RangeTest
