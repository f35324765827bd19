import RangeTest.Proofs.Act

namespace RangeTest

/-- Two outcomes are alike if both are the same error or both are results that are related. -/
inductive Except.Alike (R : α → β → Prop) : Except ε α → Except ε β → Prop
  | error (error : ε) : Alike R (.error error) (.error error)
  | ok {a : α} {b : β} : R a b → Alike R (.ok a) (.ok b)

theorem Except.alike_of_map_eq {f : α → γ} {g : β → γ} {result : Except ε α} {other : Except ε β}
    (same : result.map f = other.map g) : Alike (fun a b => f a = g b) result other := by
  cases result with
  | error error =>
    cases other with
    | error => cases same; exact .error error
    | ok => cases same
  | ok value =>
    cases other with
    | error => cases same
    | ok => exact .ok (Except.ok.inj same)

theorem map_eq_map_iff_forall₂ {f : α → γ} {g : β → γ} {as : List α} {bs : List β} :
    as.map f = bs.map g ↔ List.Forall₂ (fun a b => f a = g b) as bs := by
  rw [← List.forall₂_eq_eq_eq, List.forall₂_map_left_iff, List.forall₂_map_right_iff]

/-- Two actions that come to alike outcomes from every state and leave the same state behind. -/
def Act.Alike (R : α → β → Prop) (act : Act σ ε α) (other : Act σ ε β) : Prop :=
  ∀ state, Except.Alike R (Act.from act state).1 (Act.from other state).1 ∧
    (Act.from act state).2 = (Act.from other state).2

section
variable {R : α → β → Prop} {S : γ → δ → Prop} {act : Act σ ε α} {other : Act σ ε β}

theorem Act.Alike.refl (act : Act σ ε α) : Alike Eq act act := by
  refine fun state => ⟨?_, rfl⟩
  cases (Act.from act state).1 with
  | error error => exact .error error
  | ok value => exact .ok rfl

theorem Act.Alike.pure {a : α} {b : β} (related : R a b) :
    Alike R (Pure.pure a : Act σ ε α) (Pure.pure b) :=
  fun _ => ⟨.ok related, rfl⟩

theorem Act.Alike.ofExcept {result : Except ε α} {otherResult : Except ε β}
    (alike : Except.Alike R result otherResult) :
    Alike R (MonadExcept.ofExcept result : Act σ ε α) (MonadExcept.ofExcept otherResult) := by
  intro state
  rw [Act.from_ofExcept, Act.from_ofExcept]
  exact ⟨alike, rfl⟩

theorem Act.Alike.bind {next : α → Act σ ε γ} {otherNext : β → Act σ ε δ}
    (first : Alike R act other)
    (second : ∀ a b, R a b → Alike S (next a) (otherNext b)) :
    Alike S (act >>= next) (other >>= otherNext) := by
  intro state
  obtain ⟨outcome, same⟩ := first state
  rw [Act.from_bind, Act.from_bind]
  generalize Act.from act state = left at outcome same ⊢
  generalize Act.from other state = right at outcome same ⊢
  obtain ⟨result, middle⟩ := left
  obtain ⟨otherResult, otherMiddle⟩ := right
  cases same
  cases outcome with
  | error error => exact ⟨.error error, rfl⟩
  | ok related => exact second _ _ related middle

theorem Act.Alike.mapM {f : α → Act σ ε γ} {g : β → Act σ ε δ} {items : List α}
    {otherItems : List β} (related : List.Forall₂ R items otherItems)
    (each : ∀ a b, R a b → Alike S (f a) (g b)) :
    Alike (List.Forall₂ S) (items.mapM f) (otherItems.mapM g) := by
  induction related with
  | nil => exact .pure .nil
  | cons first _ ih =>
    rw [List.mapM_cons, List.mapM_cons]
    exact (each _ _ first).bind fun _ _ made => ih.bind fun _ _ others => .pure (.cons made others)

end

end RangeTest
