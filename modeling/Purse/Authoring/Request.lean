import Purse.Authoring.Config

/-!
# Payment requests

A payment is written as its script, a colon and its amount in digits.
-/

namespace Purse

/-- A payment asked for. -/
structure Payment where
  script : Script
  amount : Amount
  deriving DecidableEq

namespace Payment

def output (payment : Payment) : Output :=
  ⟨payment.amount, payment.script⟩

/-- Why a text is no payment. -/
inductive Fault where
  | noSeparator (text : String)
  | badScript (fault : Script.Fault)
  | badAmount (text : String) (fault : Decimal.Fault)
  deriving DecidableEq

def toText (payment : Payment) : String :=
  payment.script.toText ++ ":" ++ Decimal.print payment.amount.toNat

/-- Reads a script, a colon and an amount. The last colon ends the script. -/
def parse (text : String) : Except Fault Payment :=
  match Text.splitLast? ':' text.toList with
  | none => .error (.noSeparator text)
  | some (script, amount) =>
      match Script.parse (String.ofList script) with
      | .error fault => .error (.badScript fault)
      | .ok script =>
          let amount := String.ofList amount
          match Decimal.parseUInt64 amount with
          | .error fault => .error (.badAmount amount fault)
          | .ok amount => .ok ⟨script, amount⟩

instance : Json.Form Payment where
  toJson payment :=
    .ofFields [("script", Json.toJson payment.script), ("amount", Json.toJson payment.amount)]
  ofJson? json := do
    let [script, amount] ← json.fields? ["script", "amount"] | none
    some { script := ← Json.required? script, amount := ← Json.required? amount }

/-- Adds up the amounts from position `index` on. Refuses an amount of zero, and a total above the
greatest amount of money. -/
def totalFrom (index : Nat) (total : Amount) : List Payment → Except RequestFault Amount
  | [] => .ok total
  | payment :: rest =>
      if payment.amount = 0 then .error (.zeroAmount index)
      else
        match Amount.add? total payment.amount with
        | none => .error .amountOverflow
        | some sum =>
            if sum.toNat ≤ Amount.maxMoney then totalFrom (index + 1) sum rest
            else .error .amountOverflow

/-- The sum of the amounts of a valid request. -/
def total : List Payment → Except RequestFault Amount
  | [] => .error .noOutputs
  | payments => totalFrom 0 0 payments

end Payment

/-- A transaction to be authored. -/
structure AuthoringRequest where
  payments : List Payment
  feeRate : FeeRate
  minConf : UInt32
  strategy : SelectionStrategy
  inputKind : Option ScriptKind
  relayFee : FeeRate
  maxFeeIterations : UInt64
  /-- A dry run hands out no change address. -/
  dryRun : Bool
  lockTime : UInt64

namespace AuthoringRequest

/-- A request for nothing yet, with the configured defaults. -/
def ofConfig (config : AuthoringConfig) : AuthoringRequest where
  payments := []
  feeRate := config.feeRate
  minConf := config.minConf
  strategy := config.strategy
  inputKind := none
  relayFee := config.relayFee
  maxFeeIterations := config.maxFeeIterations
  dryRun := false
  lockTime := 0

end AuthoringRequest

end Purse
