import RangeTest.Proofs.Act

namespace RangeTest

/-- The error of the first item of a list that does not pass. -/
inductive FirstFailure (passes : α → Prop) (fails : α → ε → Prop) : List α → ε → Prop
  | here {item : α} {items : List α} {error : ε} : fails item error →
      FirstFailure passes fails (item :: items) error
  | later {item : α} {items : List α} {error : ε} : passes item →
      FirstFailure passes fails items error → FirstFailure passes fails (item :: items) error

section
variable {passes : α → Prop} {fails : α → ε → Prop} {items : List α} {error : ε}

theorem FirstFailure.not_nil : ¬ FirstFailure passes fails [] error :=
  nofun

theorem FirstFailure.cons_iff {item : α} :
    FirstFailure passes fails (item :: items) error ↔
      fails item error ∨ passes item ∧ FirstFailure passes fails items error := by
  constructor
  · intro failed
    cases failed with
    | here first => exact Or.inl first
    | later passed rest => exact Or.inr ⟨passed, rest⟩
  · rintro (first | ⟨passed, rest⟩)
    · exact .here first
    · exact .later passed rest

theorem FirstFailure.append_iff {more : List α} :
    FirstFailure passes fails (items ++ more) error ↔
      FirstFailure passes fails items error ∨
        (∀ item ∈ items, passes item) ∧ FirstFailure passes fails more error := by
  induction items with
  | nil => simp [not_nil]
  | cons item items ih =>
    rw [List.cons_append, cons_iff, cons_iff, ih, List.forall_mem_cons]
    tauto

theorem FirstFailure.flatMap_iff {parts : ι → List α} {whole : List ι} :
    FirstFailure passes fails (whole.flatMap parts) error ↔
      FirstFailure (fun i => ∀ item ∈ parts i, passes item)
        (fun i => FirstFailure passes fails (parts i)) whole error := by
  induction whole with
  | nil => simp [not_nil]
  | cons i whole ih => rw [List.flatMap_cons, append_iff, ih, cons_iff]

/-- Items that are left out neither fail nor hold a failure up. -/
theorem FirstFailure.filter_iff {kept : α → Bool} :
    FirstFailure passes fails (items.filter kept) error ↔
      FirstFailure (fun item => kept item → passes item)
        (fun item error => kept item ∧ fails item error) items error := by
  induction items with
  | nil => simp [not_nil]
  | cons item items ih =>
    rw [List.filter_cons, cons_iff]
    by_cases here : kept item
    · rw [if_pos here, cons_iff, ih]
      simp only [here, true_and, forall_const]
    · rw [if_neg here, ih]
      simp only [here, false_and, false_or, true_and, false_implies, Bool.false_eq_true]

end

/-- What an action comes to in a state, which it leaves alone: when it succeeds, and with which
errors it fails. -/
structure Act.Decides (act : Act σ ε α) (state : σ) (succeeds : Prop) (fails : ε → Prop) :
    Prop where
  kept : (Act.from act state).2 = state
  succeeds_iff : (∃ value, (Act.from act state).1 = .ok value) ↔ succeeds
  fails_iff (error : ε) : (Act.from act state).1 = .error error ↔ fails error

section
variable {act : Act σ ε α} {state : σ} {succeeds : Prop} {fails : ε → Prop}

theorem Act.Decides.of_ok {value : α} (ran : Act.from act state = (.ok value, state))
    (passed : succeeds) (sound : ∀ error, ¬ fails error) : act.Decides state succeeds fails where
  kept := by rw [ran]
  succeeds_iff := by
    rw [ran]
    exact iff_of_true ⟨value, rfl⟩ passed
  fails_iff error := by
    rw [ran]
    exact iff_of_false nofun (sound error)

theorem Act.Decides.of_error {error : ε} (ran : Act.from act state = (.error error, state))
    (stopped : ¬ succeeds) (failed : fails error) (only : ∀ other, fails other → other = error) :
    act.Decides state succeeds fails where
  kept := by rw [ran]
  succeeds_iff := by
    rw [ran]
    exact iff_of_false nofun stopped
  fails_iff other := by
    rw [ran]
    constructor
    · rintro ⟨⟩
      exact failed
    · intro other
      rw [only _ other]

theorem Act.Decides.congr (decides : act.Decides state succeeds fails) {succeeds' : Prop}
    {fails' : ε → Prop} (success : succeeds ↔ succeeds')
    (failure : ∀ error, fails error ↔ fails' error) : act.Decides state succeeds' fails' where
  kept := decides.kept
  succeeds_iff := decides.succeeds_iff.trans success
  fails_iff error := (decides.fails_iff error).trans (failure error)

/-- Of two actions the second one can fail only where the first one succeeds. -/
theorem Act.Decides.bind {next : α → Act σ ε β} {succeeds' : Prop} {fails' : ε → Prop}
    (first : act.Decides state succeeds fails)
    (second : ∀ value, (Act.from act state).1 = .ok value →
      (next value).Decides state succeeds' fails') :
    (act >>= next).Decides state (succeeds ∧ succeeds')
      (fun error => fails error ∨ succeeds ∧ fails' error) := by
  obtain ⟨kept, success, failure⟩ := first
  cases ran : Act.from act state with
  | mk outcome after =>
    rw [ran] at kept success failure second
    obtain rfl : after = state := kept
    cases outcome with
    | error error =>
      have stopped : ¬ succeeds := fun holds => nomatch success.2 holds
      refine .of_error (by rw [from_bind, ran]) (not_and_of_not_left _ stopped)
        (Or.inl ((failure error).1 rfl)) fun other failed => ?_
      have here := (failure other).2 (failed.resolve_right (not_and_of_not_left _ stopped))
      exact (Except.error.inj here).symm
    | ok value =>
      have passed : succeeds := success.1 ⟨value, rfl⟩
      have sound (error : ε) : ¬ fails error := fun holds => nomatch (failure error).2 holds
      have goes : Act.from (act >>= next) after = Act.from (next value) after := by
        rw [from_bind, ran]
      obtain ⟨kept', success', failure'⟩ := second value rfl
      rw [← goes] at kept' success' failure'
      refine ⟨kept', success'.trans (and_iff_right passed).symm, fun error => ?_⟩
      rw [or_iff_right (sound error), and_iff_right passed]
      exact failure' error

theorem Act.Decides.map (decides : act.Decides state succeeds fails) (f : α → β) :
    (f <$> act).Decides state succeeds fails := by
  have last (value : α) : (pure (f value) : Act σ ε β).Decides state True (fun _ => False) :=
    .of_ok (from_pure _ _) trivial fun _ => id
  rw [map_eq_pure_bind]
  exact (decides.bind fun value _ => last value).congr (and_iff_left trivial)
    fun error => or_iff_left And.right

/-- Items that are taken one after the other stop at the first one that fails. -/
theorem Act.Decides.mapM {f : ι → Act σ ε α} {passes : ι → Prop} {fails : ι → ε → Prop}
    {items : List ι} (each : ∀ item ∈ items, (f item).Decides state (passes item) (fails item)) :
    (items.mapM f).Decides state (∀ item ∈ items, passes item)
      (FirstFailure passes fails items) := by
  induction items with
  | nil => exact .of_ok (from_pure [] _) (List.forall_mem_nil _) fun _ => FirstFailure.not_nil
  | cons item items ih =>
    rw [List.forall_mem_cons] at each
    rw [List.mapM_cons]
    have rest (result : α) := (ih each.2).map (result :: ·)
    simp only [map_eq_pure_bind] at rest
    refine (each.1.bind fun result _ => rest result).congr ?_ fun error => ?_
    · exact List.forall_mem_cons.symm
    · exact FirstFailure.cons_iff.symm

end

end RangeTest
