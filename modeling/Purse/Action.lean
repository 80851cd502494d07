/-!
# Actions

An action answers or fails, and leaves a new state in both cases.
-/

namespace Purse

def Action (σ ε α : Type) : Type :=
  σ → Except ε α × σ

namespace Action

variable {σ τ ε φ α β : Type}

def run (action : Action σ ε α) (state : σ) : Except ε α × σ :=
  action state

protected def pure (value : α) : Action σ ε α :=
  fun state => (.ok value, state)

protected def bind (action : Action σ ε α) (next : α → Action σ ε β) : Action σ ε β :=
  fun state =>
    match action state with
    | (.error fault, state) => (.error fault, state)
    | (.ok value, state) => next value state

instance : Monad (Action σ ε) where
  pure := Action.pure
  bind := Action.bind

def fail (fault : ε) : Action σ ε α :=
  fun state => (.error fault, state)

/-- Answers what is known already, and changes nothing. -/
def ofExcept (result : Except ε α) : Action σ ε α :=
  fun state => (result, state)

def mapError (change : ε → φ) (action : Action σ ε α) : Action σ φ α :=
  fun state =>
    match action state with
    | (.error fault, state) => (.error (change fault), state)
    | (.ok value, state) => (.ok value, state)

/-- Runs on a part of a larger state. -/
def within (part : τ → σ) (replace : τ → σ → τ) (action : Action σ ε α) : Action τ ε α :=
  fun state =>
    match action (part state) with
    | (result, inner) => (result, replace state inner)

@[simp]
theorem pure_apply (value : α) (state : σ) :
    (pure value : Action σ ε α) state = (.ok value, state) := rfl

theorem bind_apply (action : Action σ ε α) (next : α → Action σ ε β) (state : σ) :
    (action >>= next) state =
      match action state with
      | (.error fault, state) => (.error fault, state)
      | (.ok value, state) => next value state := rfl

theorem bind_of_ok {action : Action σ ε α} {next : α → Action σ ε β} {state after : σ} {value : α}
    (hok : action state = (.ok value, after)) : (action >>= next) state = next value after := by
  simp [bind_apply, hok]

theorem bind_of_error {action : Action σ ε α} {next : α → Action σ ε β} {state after : σ}
    {fault : ε} (herror : action state = (.error fault, after)) :
    (action >>= next) state = (.error fault, after) := by
  simp [bind_apply, herror]

theorem bind_eq_ok_iff {action : Action σ ε α} {next : α → Action σ ε β} {state after : σ}
    {value : β} :
    (action >>= next) state = (.ok value, after) ↔
      ∃ first middle, action state = (.ok first, middle) ∧
        next first middle = (.ok value, after) := by
  rw [bind_apply]
  rcases action state with ⟨fault | first, middle⟩
  · simp
  · constructor
    · intro hnext
      exact ⟨first, middle, rfl, hnext⟩
    · rintro ⟨_, _, hsame, hnext⟩
      cases hsame
      exact hnext

theorem bind_eq_error_iff {action : Action σ ε α} {next : α → Action σ ε β} {state after : σ}
    {fault : ε} :
    (action >>= next) state = (.error fault, after) ↔
      action state = (.error fault, after) ∨
        ∃ first middle, action state = (.ok first, middle) ∧
          next first middle = (.error fault, after) := by
  rw [bind_apply]
  rcases action state with ⟨cause | first, middle⟩
  · simp
  · constructor
    · intro hnext
      exact .inr ⟨first, middle, rfl, hnext⟩
    · rintro (hsame | ⟨_, _, hsame, hnext⟩)
      · cases hsame
      · cases hsame
        exact hnext

@[simp]
theorem ofExcept_apply (result : Except ε α) (state : σ) :
    (ofExcept result : Action σ ε α) state = (result, state) := rfl

@[simp]
theorem mapError_eq_ok_iff {change : ε → φ} {action : Action σ ε α} {state after : σ}
    {value : α} :
    action.mapError change state = (.ok value, after) ↔ action state = (.ok value, after) := by
  rw [mapError]
  rcases action state with ⟨fault | found, middle⟩
  · simp
  · simp

theorem mapError_eq_error_iff {change : ε → φ} {action : Action σ ε α} {state after : σ}
    {fault : φ} :
    action.mapError change state = (.error fault, after) ↔
      ∃ cause, action state = (.error cause, after) ∧ change cause = fault := by
  rw [mapError]
  rcases action state with ⟨cause | found, middle⟩
  · constructor
    · intro hsame
      cases hsame
      exact ⟨cause, rfl, rfl⟩
    · rintro ⟨_, hsame, rfl⟩
      cases hsame
      rfl
  · simp

theorem ofExcept_mapError (change : ε → φ) (result : Except ε α) :
    (ofExcept (result.mapError change) : Action σ φ α) = (ofExcept result).mapError change := by
  funext state
  cases result with
  | error fault => rfl
  | ok value => rfl

end Action

end Purse
