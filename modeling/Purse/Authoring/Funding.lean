import Purse.Authoring.Selection

/-!
# Funding

The fee depends on the size, and the size on the inputs that pay the fee. Each round selects
credits for the outputs and the fee estimated so far, and estimates the fee anew for what was
selected. Funding ends when a selection covers its own fee, or when the rounds run out.
-/

namespace Purse

/-- What has to be funded, and how. -/
structure FundingPlan where
  eligible : List Credit
  outputs : List Output
  totalOut : Amount
  changeKind : ScriptKind
  strategy : SelectionStrategy
  feeRate : FeeRate

structure Funding where
  selection : Selection
  /-- The fee of the selection's transaction with a change output. -/
  fee : Amount
  deriving DecidableEq

namespace FundingPlan

/-- The fee of a transaction with the given inputs, the outputs and a change output. -/
def requiredFee (plan : FundingPlan) (inputs : List Credit) : Amount :=
  plan.feeRate.fee
    (estimateVirtualSize (inputs.map fun credit => credit.script.kind) plan.outputs
      (some plan.changeKind))

def target (plan : FundingPlan) (targetFee : Amount) : Amount :=
  Amount.addSaturating plan.totalOut targetFee

/-- One round: a selection for the fee so far, and the fee of that selection. -/
def round (plan : FundingPlan) (draws : Draws) (targetFee : Amount) :
    Except WalletError Funding :=
  match Selection.select plan.strategy draws plan.eligible (plan.target targetFee)
      plan.feeRate with
  | .error fault => .error fault
  | .ok selection => .ok ⟨selection, plan.requiredFee selection.selected⟩

/-- Whether what a round selected covers its fee. -/
def covers (plan : FundingPlan) (funding : Funding) : Bool :=
  funding.fee ≤ funding.selection.total - plan.totalOut

/-- At most `rounds` rounds from number `number` on. `reached` is the total of the last one. -/
def fundFrom (plan : FundingPlan) (draws : Nat → Draws) :
    (rounds number : Nat) → (targetFee reached : Amount) → Except WalletError Funding
  | 0, _, targetFee, reached => .error (.insufficientFunds reached (plan.target targetFee))
  | rounds + 1, number, targetFee, _ =>
      match plan.round (draws number) targetFee with
      | .error fault => .error fault
      | .ok funding =>
          if plan.covers funding then .ok funding
          else fundFrom plan draws rounds (number + 1) funding.fee funding.selection.total

/-- Funds the plan in at most `rounds` rounds. `draws` settles the order of each round. -/
def fund (plan : FundingPlan) (draws : Nat → Draws) (rounds : Nat) : Except WalletError Funding :=
  plan.fundFrom draws rounds 0 (plan.requiredFee []) 0

end FundingPlan

end Purse
