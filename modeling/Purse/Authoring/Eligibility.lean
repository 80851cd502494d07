import Purse.Wallet.Error

/-!
# Eligible credits

Of what a ledger lists, authoring uses the credits that belong to the account, are confirmed often
enough, are mature and have the wanted kind. Of several such credits at one outpoint it uses the
first.
-/

namespace Purse

/-- What makes a single credit eligible. -/
structure Eligibility where
  account : AccountId
  minConf : UInt32
  /-- The kind that inputs have to be of, if they have to be of one. -/
  inputKind : Option ScriptKind

namespace Eligibility

def admits (rule : Eligibility) (tip : UInt64) (credit : Credit) : Bool :=
  credit.account = rule.account && rule.minConf.toUInt64 ≤ credit.confirmations tip &&
    credit.isMature tip &&
    match rule.inputKind with
    | none => true
    | some kind => credit.script.kind = kind

/-- The credits whose outpoint is neither in `seen` nor that of an earlier credit. -/
def firstAtOutpoint (seen : List OutPoint) : List Credit → List Credit
  | [] => []
  | credit :: rest =>
      if credit.outpoint ∈ seen then firstAtOutpoint seen rest
      else credit :: firstAtOutpoint (credit.outpoint :: seen) rest

/-- The eligible credits among the listed ones, in their order. -/
def filter (rule : Eligibility) (tip : UInt64) (listed : List Credit) : List Credit :=
  firstAtOutpoint [] (listed.filter (rule.admits tip))

/-- Reads the ledger and rechecks its answer. -/
def read {σ : Type} (rule : Eligibility) (ledger : LedgerReader σ) :
    Action σ WalletError (List Credit) := do
  let tip ← ledger.tipHeight.mapError .ofLedger
  let listed ← (ledger.listUnspent rule.account rule.minConf).mapError .ofLedger
  pure (rule.filter tip listed)

end Eligibility

end Purse
