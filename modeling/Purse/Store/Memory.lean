import Purse.Store.Basic

/-!
# Stores in memory
-/

namespace Purse.MemoryStore

abbrev State := Option KeyChainData

def load : Action State StoreError (Option KeyChainData) :=
  fun state => (.ok state, state)

def replace (data : KeyChainData) : Action State StoreError Unit :=
  fun _ => (.ok (), some data)

def saveAccount (account : AccountId) (record : AccountRecord) : Action State StoreError Unit
  | none => (.error .notInitialized, none)
  | some data => (.ok (), some (data.saveAccount account record))

def store : AccountStore State := ⟨load, replace, saveAccount⟩

end Purse.MemoryStore
