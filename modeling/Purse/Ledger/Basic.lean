import Purse.Action
import Purse.Credit

/-!
# Ledgers

A ledger knows the height of the chain's tip and lists unspent credits in the order of their
discovery.
-/

namespace Purse

/-- Why a ledger could not be read. -/
inductive LedgerError where
  | unavailable (detail : String)
  | corrupt (detail : String)
  deriving DecidableEq

def LedgerError.message : LedgerError → String
  | .unavailable detail => "ledger unavailable: " ++ detail
  | .corrupt detail => "ledger corrupt: " ++ detail

/-- What authoring asks of a ledger. The answers may be anything. -/
structure LedgerReader (σ : Type) where
  tipHeight : Action σ LedgerError UInt64
  /-- The unspent credits of an account with at least the given number of confirmations. -/
  listUnspent : AccountId → (minConf : UInt32) → Action σ LedgerError (List Credit)

/-- The wallet's own ledger. -/
structure Ledger where
  tipHeight : UInt64
  credits : List Credit
  deriving DecidableEq

namespace Ledger

def empty : Ledger := ⟨0, []⟩

/-- Whether some credit has the outpoint. -/
def knows (ledger : Ledger) (point : OutPoint) : Bool :=
  ledger.credits.any fun credit => credit.outpoint = point

/-- Adds a credit at the end, unless its outpoint is known. Tells whether it was added. -/
def recordCredit (ledger : Ledger) (credit : Credit) : Bool × Ledger :=
  if ledger.knows credit.outpoint then (false, ledger)
  else (true, { ledger with credits := ledger.credits ++ [credit] })

/-- Takes out the first credit at the outpoint, if there is one. -/
def markSpent (ledger : Ledger) (point : OutPoint) : Option Credit × Ledger :=
  (ledger.credits.find? fun credit => credit.outpoint = point,
    { ledger with credits := ledger.credits.eraseP fun credit => credit.outpoint = point })

def setTip (ledger : Ledger) (height : UInt64) : Ledger :=
  { ledger with tipHeight := height }

/-- The credits of an account with at least the given number of confirmations. -/
def listUnspent (ledger : Ledger) (account : AccountId) (minConf : UInt32) : List Credit :=
  ledger.credits.filter fun credit =>
    credit.account = account && minConf.toUInt64 ≤ credit.confirmations ledger.tipHeight

/-- The ledger as authoring reads it. -/
def reader (σ : Type) (ledger : Ledger) : LedgerReader σ where
  tipHeight := pure ledger.tipHeight
  listUnspent account minConf := pure (ledger.listUnspent account minConf)

instance : Json.Form Ledger where
  toJson ledger :=
    .ofFields [("tip_height", Json.toJson ledger.tipHeight),
      ("credits", Json.toJson ledger.credits)]
  ofJson? json := do
    let [tipHeight, credits] ← json.fields? ["tip_height", "credits"] | none
    some { tipHeight := ← Json.required? tipHeight, credits := ← Json.required? credits }

end Ledger

end Purse
