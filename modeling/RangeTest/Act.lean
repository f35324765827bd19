namespace RangeTest

/-- An action on a state. It leaves a state behind also where it fails. -/
abbrev Act (σ ε : Type) := ExceptT ε (StateM σ)

def Act.from (act : Act σ ε α) (state : σ) : Except ε α × σ :=
  act.run.run state

/-- Runs an action on one part of a larger state. -/
def Act.zoom (part : τ → σ) (update : σ → τ → τ) (act : Act σ ε α) : Act τ ε α :=
  ExceptT.mk fun whole =>
    let (outcome, changed) := Act.from act (part whole)
    (outcome, update changed whole)

/-- Gives the error of an action another form. -/
def Act.mapError (f : ε → ε') (act : Act σ ε α) : Act σ ε' α :=
  ExceptT.mk fun state =>
    let (outcome, changed) := Act.from act state
    (outcome.mapError f, changed)

@[simp] theorem Act.from_pure (value : α) (state : σ) :
    Act.from (pure value : Act σ ε α) state = (.ok value, state) :=
  rfl

@[simp] theorem Act.from_throw (error : ε) (state : σ) :
    Act.from (throw error : Act σ ε α) state = (.error error, state) :=
  rfl

/-- What follows an action starts from the state that it leaves, and does not start after a
failure. -/
theorem Act.from_bind (act : Act σ ε α) (next : α → Act σ ε β) (state : σ) :
    Act.from (act >>= next) state =
      match Act.from act state with
      | (.ok value, changed) => Act.from (next value) changed
      | (.error error, changed) => (.error error, changed) := by
  simp only [Act.from, ExceptT.run_bind, StateT.run_bind]
  cases h : act.run.run state with
  | mk outcome changed => cases outcome <;> rfl

@[simp] theorem Act.from_modify (change : σ → σ) (state : σ) :
    Act.from (modify change : Act σ ε PUnit) state = (.ok ⟨⟩, change state) :=
  rfl

@[simp] theorem Act.from_get (state : σ) :
    Act.from (get : Act σ ε σ) state = (.ok state, state) :=
  rfl

@[simp] theorem Act.from_ofExcept (result : Except ε α) (state : σ) :
    Act.from (MonadExcept.ofExcept result : Act σ ε α) state = (result, state) := by
  cases result <;> rfl

theorem Act.from_mapError (f : ε → ε') (act : Act σ ε α) (state : σ) :
    Act.from (mapError f act) state =
      ((Act.from act state).1.mapError f, (Act.from act state).2) :=
  rfl

theorem Act.from_zoom (part : τ → σ) (update : σ → τ → τ) (act : Act σ ε α) (whole : τ) :
    Act.from (zoom part update act) whole =
      ((Act.from act (part whole)).1, update (Act.from act (part whole)).2 whole) :=
  rfl

end RangeTest
