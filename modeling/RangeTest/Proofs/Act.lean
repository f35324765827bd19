import Mathlib.Data.List.Forall2
import RangeTest.Act

namespace RangeTest

theorem Except.bind_eq_ok_iff {first : Except ε α} {next : α → Except ε β} {result : β} :
    first >>= next = .ok result ↔ ∃ value, first = .ok value ∧ next value = .ok result := by
  cases first with
  | error error => exact ⟨nofun, fun ⟨_, impossible, _⟩ => nomatch impossible⟩
  | ok value => exact ⟨fun second => ⟨value, rfl, second⟩, fun ⟨_, rfl, second⟩ => second⟩

theorem Except.bind_eq_error_iff {first : Except ε α} {next : α → Except ε β} {error : ε} :
    first >>= next = .error error ↔
      first = .error error ∨ ∃ value, first = .ok value ∧ next value = .error error := by
  cases first with
  | error other =>
    constructor
    · exact fun same => Or.inl (congrArg Except.error (Except.error.inj same))
    · rintro (same | ⟨_, impossible, _⟩)
      · exact congrArg Except.error (Except.error.inj same)
      · cases impossible
  | ok value => exact ⟨fun later => Or.inr ⟨value, rfl, later⟩, fun
      | .inl impossible => nomatch impossible
      | .inr ⟨_, rfl, later⟩ => later⟩

theorem Except.mapError_eq_ok_iff {result : Except ε α} {f : ε → ε'} {value : α} :
    result.mapError f = .ok value ↔ result = .ok value := by
  cases result with
  | error error => exact ⟨nofun, nofun⟩
  | ok found =>
    constructor
    · exact fun same => congrArg Except.ok (Except.ok.inj same)
    · exact fun same => congrArg (Except.mapError f) same

theorem Except.toOption_eq_some_iff {result : Except ε α} {value : α} :
    result.toOption = some value ↔ result = .ok value := by
  cases result with
  | error error => exact ⟨nofun, nofun⟩
  | ok found =>
    constructor
    · exact fun same => congrArg Except.ok (Option.some.inj same)
    · exact fun same => congrArg Except.toOption same

theorem Except.mapError_mapError (result : Except ε α) (f : ε → ε') (g : ε' → ε'') :
    (result.mapError f).mapError g = result.mapError fun error => g (f error) := by
  cases result <;> rfl

theorem Except.mapError_bind (first : Except ε α) (next : α → Except ε β) (f : ε → ε') :
    (first >>= next).mapError f = first.mapError f >>= fun value => (next value).mapError f := by
  cases first <;> rfl

theorem Option.mapM_eq_some_iff {f : α → Option β} {items : List α} {results : List β} :
    items.mapM f = some results ↔
      List.Forall₂ (fun item result => f item = some result) items results := by
  induction items generalizing results with
  | nil =>
    rw [List.mapM_nil, List.forall₂_nil_left_iff]
    exact ⟨fun same => (Option.some.inj same).symm, fun same => congrArg some same.symm⟩
  | cons item items ih =>
    rw [List.mapM_cons, List.forall₂_cons_left_iff]
    constructor
    · intro done
      obtain ⟨result, first, done⟩ := Option.bind_eq_some_iff.1 done
      obtain ⟨others, rest, done⟩ := Option.bind_eq_some_iff.1 done
      cases done
      exact ⟨result, others, first, ih.1 rest, rfl⟩
    · rintro ⟨result, others, first, rest, rfl⟩
      refine Option.bind_eq_some_iff.2 ⟨result, first, ?_⟩
      exact Option.bind_eq_some_iff.2 ⟨others, ih.2 rest, rfl⟩

theorem exists_of_forall₂ {R : α → β → Prop} {items : List α} {results : List β}
    (each : List.Forall₂ R items results) : ∀ item ∈ items, ∃ result ∈ results, R item result := by
  induction each with
  | nil => exact List.forall_mem_nil _
  | cons first _ ih =>
    refine List.forall_mem_cons.2 ⟨⟨_, List.mem_cons_self, first⟩, fun item member => ?_⟩
    obtain ⟨result, later, related⟩ := ih item member
    exact ⟨result, List.mem_cons_of_mem _ later, related⟩

/-- A sequence of two actions succeeds if and only if both do. -/
theorem Act.from_bind_ok_iff {act : Act σ ε α} {next : α → Act σ ε β} {state after : σ}
    {result : β} :
    Act.from (act >>= next) state = (.ok result, after) ↔
      ∃ value middle, Act.from act state = (.ok value, middle) ∧
        Act.from (next value) middle = (.ok result, after) := by
  rw [Act.from_bind]
  generalize Act.from act state = first
  obtain ⟨outcome, middle⟩ := first
  cases outcome with
  | error error => simp
  | ok value => simp

/-- If an action is done for every item of a list, its results are those of the items. -/
theorem Act.from_mapM_ok {f : α → Act σ ε β} {items : List α} {results : List β} {state after : σ}
    (ran : Act.from (items.mapM f) state = (.ok results, after)) :
    List.Forall₂ (fun item result => ∃ before after, Act.from (f item) before = (.ok result, after))
      items results := by
  induction items generalizing results state with
  | nil =>
    cases ran
    exact .nil
  | cons item items ih =>
    rw [List.mapM_cons] at ran
    obtain ⟨result, middle, first, ran⟩ := from_bind_ok_iff.1 ran
    obtain ⟨others, last, rest, ran⟩ := from_bind_ok_iff.1 ran
    cases ran
    exact .cons ⟨state, middle, first⟩ (ih rest)

/-- Where the state is left alone whenever an action succeeds, every item is done from the same
state. -/
theorem Act.from_mapM_ok_of_steady {f : α → Act σ ε β} {items : List α} {results : List β}
    {state after : σ}
    (steady : ∀ item before last result, Act.from (f item) before = (.ok result, last) →
      last = before)
    (ran : Act.from (items.mapM f) state = (.ok results, after)) :
    after = state ∧ List.Forall₂ (fun item result => Act.from (f item) state = (.ok result, state))
      items results := by
  induction items generalizing results with
  | nil =>
    cases ran
    exact ⟨rfl, .nil⟩
  | cons item items ih =>
    rw [List.mapM_cons] at ran
    obtain ⟨result, middle, first, ran⟩ := from_bind_ok_iff.1 ran
    obtain ⟨others, last, rest, ran⟩ := from_bind_ok_iff.1 ran
    cases ran
    cases steady item state middle result first
    obtain ⟨same, each⟩ := ih rest
    exact ⟨same, .cons first each⟩

/-- Results that do not depend on the state leave it alone. -/
theorem Act.from_mapM_ofExcept_ok {f : α → Except ε β} {items : List α} {results : List β}
    {state after : σ}
    (ran : Act.from (items.mapM fun item => (MonadExcept.ofExcept (f item) : Act σ ε β)) state =
      (.ok results, after)) :
    after = state ∧ List.Forall₂ (fun item result => f item = .ok result) items results := by
  obtain ⟨same, each⟩ := from_mapM_ok_of_steady (fun item before last result done => by
    rw [from_ofExcept] at done
    exact (congrArg Prod.snd done).symm) ran
  refine ⟨same, each.imp fun item result done => ?_⟩
  rw [from_ofExcept] at done
  exact congrArg Prod.fst done

end RangeTest
