import Purse.Store.Basic

/-!
# Stores that fail on request

A store that can be told to answer every call with one fault, and then changes nothing.
-/

namespace Purse.FailingStore

structure State (σ : Type) where
  inner : σ
  fault : Option StoreError

variable {σ : Type}

def guarded {α : Type} (action : Action σ StoreError α) : Action (State σ) StoreError α :=
  fun state =>
    match state.fault with
    | some fault => (.error fault, state)
    | none =>
        match action state.inner with
        | (result, inner) => (result, { state with inner })

def store (inner : AccountStore σ) : AccountStore (State σ) where
  load := guarded inner.load
  replace data := guarded (inner.replace data)
  saveAccount account record := guarded (inner.saveAccount account record)

end Purse.FailingStore
