import Purse.Authoring.Change
import Purse.Ledger.Basic

/-!
# What actions leave alone

An action preserves a view of the state if the view is the same afterwards, whether the action
answers or fails.  Collaborators that work side by side preserve each other's state.
-/

namespace Purse

variable {σ τ ε φ α β γ : Type}

namespace Action

/-- What `view` shows of the state is the same afterwards. -/
def Preserves (view : σ → γ) (action : Action σ ε α) : Prop :=
  ∀ state, view (action state).2 = view state

variable {view : σ → γ}

theorem preserves_pure (value : α) : (pure value : Action σ ε α).Preserves view :=
  fun _ => rfl

theorem preserves_ofExcept (result : Except ε α) :
    (ofExcept result : Action σ ε α).Preserves view :=
  fun _ => rfl

theorem Preserves.eq_after {action : Action σ ε α} (haction : action.Preserves view)
    {state after : σ} {result : Except ε α} (hresult : action state = (result, after)) :
    view after = view state := by
  rw [← haction state, hresult]

theorem Preserves.bind {action : Action σ ε α} {next : α → Action σ ε β}
    (haction : action.Preserves view) (hnext : ∀ value, (next value).Preserves view) :
    (action >>= next).Preserves view := by
  intro state
  rw [bind_apply]
  rcases hresult : action state with ⟨fault | value, middle⟩
  · exact haction.eq_after hresult
  · exact (hnext value middle).trans (haction.eq_after hresult)

theorem bind_pure_state (action : Action σ ε α) (change : α → β) (state : σ) :
    ((action >>= fun value => pure (change value)) state).2 = (action state).2 := by
  rw [bind_apply]
  rcases action state with ⟨fault | value, after⟩
  · rfl
  · rfl

theorem Preserves.mapError {action : Action σ ε α} (haction : action.Preserves view)
    (change : ε → φ) : (action.mapError change).Preserves view := by
  intro state
  rw [Action.mapError]
  rcases hresult : action state with ⟨fault | value, after⟩
  · exact haction.eq_after hresult
  · exact haction.eq_after hresult

/-- On the first component of a pair. -/
def onFirst (action : Action τ ε α) : Action (τ × σ) ε α :=
  action.within Prod.fst fun state first => (first, state.2)

/-- On the second component of a pair. -/
def onSecond (action : Action σ ε α) : Action (τ × σ) ε α :=
  action.within Prod.snd fun state second => (state.1, second)

theorem onFirst_preserves (action : Action τ ε α) :
    (onFirst action : Action (τ × σ) ε α).Preserves Prod.snd :=
  fun _ => rfl

theorem Preserves.onSecond {action : Action σ ε α} (haction : action.Preserves view) :
    (Action.onSecond action : Action (τ × σ) ε α).Preserves fun state => view state.2 :=
  fun state => haction state.2

end Action

/-- The ledger beside another collaborator. -/
def LedgerReader.onFirst (ledger : LedgerReader τ) : LedgerReader (τ × σ) where
  tipHeight := ledger.tipHeight.onFirst
  listUnspent account minConf := (ledger.listUnspent account minConf).onFirst

/-- The source of addresses beside another collaborator. -/
def ChangeSource.onSecond (addresses : ChangeSource σ) : ChangeSource (τ × σ) where
  changeKind account := (addresses.changeKind account).onSecond
  currentChange account := (addresses.currentChange account).onSecond
  nextChange account := (addresses.nextChange account).onSecond

end Purse
