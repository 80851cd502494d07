import Purse.Wallet.Error

/-!
# Change addresses

A preview looks at the account's current change address. A commit has a fresh one handed out.
-/

namespace Purse

/-- What authoring asks of whoever hands out addresses. The answers may be anything. -/
structure ChangeSource (σ : Type) where
  /-- The kind of the account's change outputs. -/
  changeKind : AccountId → Action σ DerivationError ScriptKind
  /-- The change address in use. -/
  currentChange : AccountId → Action σ DerivationError Script
  /-- Hands out a fresh change address. -/
  nextChange : AccountId → Action σ DerivationError Script

namespace ChangeSource

variable {σ : Type}

def kind (source : ChangeSource σ) (account : AccountId) : Action σ WalletError ScriptKind :=
  (source.changeKind account).mapError .ofDerivation

def peek (source : ChangeSource σ) (account : AccountId) : Action σ WalletError Script :=
  (source.currentChange account).mapError .ofDerivation

def allocate (source : ChangeSource σ) (account : AccountId) : Action σ WalletError Script :=
  (source.nextChange account).mapError .ofDerivation

def script (source : ChangeSource σ) (account : AccountId) (commit : Bool) :
    Action σ WalletError Script :=
  if commit then source.allocate account else source.peek account

end ChangeSource

end Purse
