import Purse.Account.Record
import Purse.Account.Registry
import Purse.Action

/-!
# Account stores

A store keeps what is needed to rebuild an address book: the seed and the record of every account.
-/

namespace Purse

structure KeyChainData where
  seed : Seed
  accounts : Registry AccountRecord
  deriving DecidableEq

namespace KeyChainData

def saveAccount (data : KeyChainData) (account : AccountId) (record : AccountRecord) :
    KeyChainData :=
  { data with accounts := data.accounts.insert account record }

instance : Json.Form KeyChainData where
  toJson data :=
    .ofFields [("seed", Json.toJson data.seed.bytes), ("accounts", Json.toJson data.accounts)]
  ofJson? json := do
    let [seed, accounts] ← json.fields? ["seed", "accounts"] | none
    some { seed := ⟨← Json.required? seed⟩, accounts := ← Json.required? accounts }

end KeyChainData

/-- The operations of a store whose state is of type `σ`. -/
structure AccountStore (σ : Type) where
  /-- What is stored, if anything is. -/
  load : Action σ StoreError (Option KeyChainData)
  /-- Stores the given data in place of everything. -/
  replace : KeyChainData → Action σ StoreError Unit
  /-- Stores one record in place of the account's earlier one. -/
  saveAccount : AccountId → AccountRecord → Action σ StoreError Unit

/-- The fault of saving a record before anything else has been stored. -/
def StoreError.notInitialized : StoreError :=
  .corrupt (.found .notInitialized)

end Purse
