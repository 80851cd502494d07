import Purse.Json.Form
import Purse.Text.Decimal

/-!
# Account numbers
-/

namespace Purse

structure AccountId where
  number : UInt32
  deriving DecidableEq, Inhabited

namespace AccountId

/-- The account that every wallet starts with. -/
def default : AccountId := ⟨0⟩

def toText (account : AccountId) : String :=
  Decimal.print account.number.toNat

instance : Json.Form AccountId where
  toJson account := Json.toJson account.number
  ofJson? json := (Json.ofJson? json).map AccountId.mk

end AccountId

end Purse
