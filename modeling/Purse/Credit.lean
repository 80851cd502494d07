import Purse.Account.Id
import Purse.Fee

/-!
# Credits

A credit is an unspent output that the wallet owns.
-/

namespace Purse

structure Credit where
  outpoint : OutPoint
  output : Output
  account : AccountId
  /-- The height of the confirming block, if there is one. -/
  blockHeight : Option UInt64
  isCoinbase : Bool
  deriving DecidableEq

namespace Credit

/-- How many confirmations a coinbase credit needs before it may be spent. -/
def coinbaseMaturity : UInt64 := 100

def amount (credit : Credit) : Amount :=
  credit.output.value

def script (credit : Credit) : Script :=
  credit.output.script

/-- How many blocks confirm the credit at the given tip. A credit in the tip block has one
confirmation, and one above the tip has none. -/
def confirmations (credit : Credit) (tip : UInt64) : UInt64 :=
  match credit.blockHeight with
  | none => 0
  | some height => if height ≤ tip then tip - height + 1 else 0

def isMature (credit : Credit) (tip : UInt64) : Bool :=
  !credit.isCoinbase || coinbaseMaturity ≤ credit.confirmations tip

/-- Whether the credit is worth more than the input that spends it costs. -/
def yieldsPositively (credit : Credit) (rate : FeeRate) : Bool :=
  rate.floorFee credit.script.kind.minInputVsize < credit.amount

instance : Json.Form Credit where
  toJson credit :=
    .ofFields [("outpoint", Json.toJson credit.outpoint), ("output", Json.toJson credit.output),
      ("account", Json.toJson credit.account), ("block_height", Json.toJson credit.blockHeight),
      ("is_coinbase", Json.toJson credit.isCoinbase)]
  ofJson? json := do
    let [outpoint, output, account, blockHeight, isCoinbase] ←
      json.fields? ["outpoint", "output", "account", "block_height", "is_coinbase"] | none
    some {
      outpoint := ← Json.required? outpoint
      output := ← Json.required? output
      account := ← Json.required? account
      blockHeight := ← Json.withDefault? none blockHeight
      isCoinbase := ← Json.required? isCoinbase }

end Credit

end Purse
