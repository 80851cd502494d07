import Purse.Authoring.Change
import Purse.Authoring.Eligibility
import Purse.Authoring.Funding
import Purse.Authoring.Request

/-!
# Authoring

An authored transaction is unsigned, and comes with what a signer needs. Change that is dust is left
to the fee. Handing out a change address is the last thing that authoring asks for.
-/

namespace Purse

structure AuthoredTransaction where
  tx : Transaction
  /-- The position of the change output, if one was kept. -/
  changeIndex : Option UInt64
  totalInput : Amount
  fee : Amount
  prevScripts : List Script
  prevValues : List Amount
  deriving DecidableEq

namespace AuthoredTransaction

def changeOutput? (authored : AuthoredTransaction) : Option Output :=
  authored.changeIndex.bind fun index => authored.tx.outputs[index.toNat]?

instance : Json.Form AuthoredTransaction where
  toJson authored :=
    .ofFields [("tx", Json.toJson authored.tx), ("change_index", Json.toJson authored.changeIndex),
      ("total_input", Json.toJson authored.totalInput), ("fee", Json.toJson authored.fee),
      ("prev_scripts", Json.toJson authored.prevScripts),
      ("prev_values", Json.toJson authored.prevValues)]
  ofJson? json := do
    let [tx, changeIndex, totalInput, fee, prevScripts, prevValues] ←
      json.fields?
        ["tx", "change_index", "total_input", "fee", "prev_scripts", "prev_values"] | none
    some {
      tx := ← Json.required? tx
      changeIndex := ← Json.withDefault? none changeIndex
      totalInput := ← Json.required? totalInput
      fee := ← Json.required? fee
      prevScripts := ← Json.required? prevScripts
      prevValues := ← Json.required? prevValues }

/-- The unsigned transaction that spends the selected credits. -/
def ofSelection (selection : Selection) (outputs : List Output) (changeIndex : Option UInt64)
    (lockTime : UInt64) : Except WalletError AuthoredTransaction :=
  let tx : Transaction := {
    version := Transaction.currentVersion
    inputs := selection.selected.map fun credit => .unsigned credit.outpoint
    outputs
    lockTime }
  match tx.totalOutput? with
  | none => .error (.request .outputOverflow)
  | some totalOutput =>
      .ok {
        tx
        changeIndex
        totalInput := selection.total
        fee := selection.total - totalOutput
        prevScripts := selection.selected.map Credit.script
        prevValues := selection.selected.map Credit.amount }

end AuthoredTransaction

namespace AuthoringRequest

variable {σ : Type}

def eligibility (request : AuthoringRequest) (account : AccountId) : Eligibility :=
  ⟨account, request.minConf, request.inputKind⟩

def plan (request : AuthoringRequest) (eligible : List Credit) (totalOut : Amount)
    (changeKind : ScriptKind) : FundingPlan where
  eligible
  outputs := request.payments.map Payment.output
  totalOut
  changeKind
  strategy := request.strategy
  feeRate := request.feeRate

/-- Whether change of the given amount is left to the fee. -/
def dropsChange (request : AuthoringRequest) (change : Amount) (kind : ScriptKind) : Bool :=
  change = 0 || isDust change kind request.relayFee

/-- Finishes a funded request: has a change address handed out if change is kept. -/
def finish (request : AuthoringRequest) (account : AccountId) (addresses : ChangeSource σ)
    (totalOut : Amount) (changeKind : ScriptKind) (funding : Funding) :
    Action σ WalletError AuthoredTransaction :=
  let change := funding.selection.total - totalOut - funding.fee
  let outputs := request.payments.map Payment.output
  if request.dropsChange change changeKind then
    .ofExcept (AuthoredTransaction.ofSelection funding.selection outputs none request.lockTime)
  else do
    let script ← addresses.script account (!request.dryRun)
    .ofExcept (AuthoredTransaction.ofSelection funding.selection (outputs ++ [⟨change, script⟩])
      (some (UInt64.ofNat outputs.length)) request.lockTime)

/-- Authors the transaction from the account's credits. `draws` settles the order of the credits in
each round of funding, if the strategy is random. -/
def build (request : AuthoringRequest) (account : AccountId) (ledger : LedgerReader σ)
    (addresses : ChangeSource σ) (draws : Nat → Draws) :
    Action σ WalletError AuthoredTransaction := do
  let totalOut ← .ofExcept ((Payment.total request.payments).mapError .request)
  let eligible ← (request.eligibility account).read ledger
  let changeKind ← addresses.kind account
  let funding ← .ofExcept
    ((request.plan eligible totalOut changeKind).fund draws request.maxFeeIterations.toNat)
  request.finish account addresses totalOut changeKind funding

end AuthoringRequest

end Purse
