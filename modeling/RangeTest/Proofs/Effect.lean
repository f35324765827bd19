import Mathlib.Order.Defs.Unbundled
import RangeTest.Proofs.Act

namespace RangeTest

/-- Whatever an action comes to, it takes a part of the state from one value to a related one. -/
def Act.Moves (part : σ → β) (R : β → β → Prop) (act : Act σ ε α) : Prop :=
  ∀ state, R (part state) (part (Act.from act state).2)

section
variable {part : σ → β} {R : β → β → Prop} {act : Act σ ε α}

theorem Act.Moves.get_bind {next : σ → Act σ ε α} (second : ∀ state, Moves part R (next state)) :
    Moves part R (get >>= next) :=
  fun state => second state state

/-- A change to other parts of the state does not count. -/
theorem Act.Moves.modify_bind {change : σ → σ} {next : PUnit → Act σ ε α}
    (same : ∀ state, part (change state) = part state) (second : Moves part R (next ⟨⟩)) :
    Moves part R (modify change >>= next) := by
  intro state
  rw [from_bind, from_modify, ← same state]
  exact second (change state)

variable [IsPreorder β R]

theorem Act.Moves.ofExcept (result : Except ε α) :
    Moves part R (MonadExcept.ofExcept result : Act σ ε α) := by
  intro state
  rw [from_ofExcept]
  exact refl_of R _

theorem Act.Moves.pure (value : α) : Moves part R (pure value : Act σ ε α) :=
  .ofExcept (.ok value)

theorem Act.Moves.throw (error : ε) : Moves part R (throw error : Act σ ε α) :=
  .ofExcept (.error error)

theorem Act.Moves.bind {next : α → Act σ ε γ} (first : Moves part R act)
    (second : ∀ value, Moves part R (next value)) : Moves part R (act >>= next) := by
  intro state
  rw [from_bind]
  have began := first state
  generalize Act.from act state = reached at began
  obtain ⟨outcome, middle⟩ := reached
  cases outcome with
  | error error => exact began
  | ok value => exact trans_of R began (second value middle)

theorem Act.Moves.bind_option {act : Act σ ε (Option α)} {next : Option α → Act σ ε γ}
    (first : Moves part R act) (absent : Moves part R (next none))
    (present : ∀ value, Moves part R (next (some value))) : Moves part R (act >>= next) := by
  refine first.bind fun value => ?_
  cases value with
  | none => exact absent
  | some value => exact present value

theorem Act.Moves.map (moves : Moves part R act) (f : α → γ) : Moves part R (f <$> act) := by
  rw [map_eq_pure_bind]
  exact moves.bind fun value => .pure (f value)

theorem Act.Moves.mapM {f : ι → Act σ ε α} (each : ∀ item, Moves part R (f item))
    (items : List ι) : Moves part R (items.mapM f) := by
  induction items with
  | nil => exact .pure []
  | cons item items ih =>
    rw [List.mapM_cons]
    exact (each item).bind fun result => ih.bind fun results => .pure (result :: results)

end

/-- An action that only reads a part of the state. It leaves that part alone, and what it comes to
depends on nothing else. -/
structure Act.Reads (part : σ → β) (act : Act σ ε α) : Prop where
  kept : Moves part Eq act
  told {state other : σ} : part state = part other → (Act.from act state).1 = (Act.from act other).1

section
variable {part : σ → β} {act : Act σ ε α}

theorem Act.Reads.ofExcept (result : Except ε α) :
    Reads part (MonadExcept.ofExcept result : Act σ ε α) where
  kept := .ofExcept result
  told _ := by rw [from_ofExcept, from_ofExcept]

theorem Act.Reads.pure (value : α) : Reads part (pure value : Act σ ε α) :=
  .ofExcept (.ok value)

theorem Act.Reads.bind {next : α → Act σ ε γ} (first : Reads part act)
    (second : ∀ value, Reads part (next value)) : Reads part (act >>= next) where
  kept := first.kept.bind fun value => (second value).kept
  told {state other} same := by
    rw [from_bind, from_bind]
    have told := first.told same
    -- Both runs go on from states that agree on the part.
    have kept := first.kept state
    have kept' := first.kept other
    generalize Act.from act state = reached at told kept
    generalize Act.from act other = reached' at told kept'
    obtain ⟨outcome, middle⟩ := reached
    obtain ⟨outcome', middle'⟩ := reached'
    cases told
    cases outcome with
    | error error => rfl
    | ok value => exact (second value).told (kept.symm.trans (same.trans kept'))

/-- What comes next may depend on the part that is read. -/
theorem Act.Reads.get_bind {next : β → Act σ ε α} (second : ∀ seen, Reads part (next seen)) :
    Reads part (get >>= fun state => next (part state)) where
  kept := .get_bind fun state => (second (part state)).kept
  told {state other} same := by
    rw [from_bind, from_bind, from_get, from_get]
    dsimp only
    rw [same]
    exact (second (part other)).told same

theorem Act.Reads.mapError (reads : Reads part act) (f : ε → ε') :
    Reads part (Act.mapError f act) where
  kept state := reads.kept state
  told same := by rw [from_mapError, from_mapError, reads.told same]

end

end RangeTest
