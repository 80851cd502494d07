import Purse.Amount
import Purse.Json.Form
import Purse.Text.Decimal
import Purse.Transaction.Size

/-!
# Fee rates and dust

A rate is an amount for each 1000 virtual bytes. A positive rate never makes a fee of zero, and no
fee is above the greatest amount of money.
-/

namespace Purse

structure FeeRate where
  perKvb : Amount
  deriving DecidableEq, Inhabited

namespace FeeRate

def ofPerVbyte (perVbyte : Amount) : FeeRate :=
  ⟨Amount.mulSaturating perVbyte 1000⟩

def toText (rate : FeeRate) : String :=
  Decimal.print rate.perKvb.toNat ++ "/kvB"

/-- The cost of `vsize` virtual bytes, rounded down, by which a single input is judged. -/
def floorFee (rate : FeeRate) (vsize : Nat) : Amount :=
  Amount.ofNatCapped (rate.perKvb.toNat * vsize / 1000)

/-- The fee of a transaction of `vsize` virtual bytes. Where the cost rounds down to nothing, a
positive rate takes the fee of a whole kilobyte. -/
def fee (rate : FeeRate) (vsize : Nat) : Amount :=
  let cost := rate.floorFee vsize
  if cost = 0 ∧ 0 < rate.perKvb then Amount.ofNatCapped rate.perKvb.toNat else cost

instance : Json.Form FeeRate where
  toJson rate := Json.toJson rate.perKvb
  ofJson? json := (Json.ofJson? json).map FeeRate.mk

end FeeRate

/-- The size of the input by which dust is judged. -/
def dustInputSize : Nat := 148

/-- An output is dust when making and spending it costs more than a third of its value at the relay
fee. -/
def isDust (amount : Amount) (kind : ScriptKind) (relayFee : FeeRate) : Bool :=
  amount.toNat * 1000 / (3 * (kind.outputSize + dustInputSize)) < relayFee.perKvb.toNat

end Purse
