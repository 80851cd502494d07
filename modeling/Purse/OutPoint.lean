import Purse.Digest
import Purse.Text.Decimal

/-!
# Outpoints

An outpoint names one output of a transaction. The null outpoint marks the input of a coinbase
transaction.
-/

namespace Purse

structure OutPoint where
  txid : Digest
  index : UInt64
  deriving DecidableEq, Inhabited

namespace OutPoint

def null : OutPoint := ⟨Digest.zero, 0xFFFFFFFFFFFFFFFF⟩

def isNull (point : OutPoint) : Bool :=
  point = null

def toText (point : OutPoint) : String :=
  point.txid.toText ++ ":" ++ Decimal.print point.index.toNat

/-- Outpoints are ordered by transaction, then by index. -/
def compare (a b : OutPoint) : Ordering :=
  (Digest.compare a.txid b.txid).then (Ord.compare a.index.toNat b.index.toNat)

instance : Json.Form OutPoint where
  toJson point := .ofFields [("txid", Json.toJson point.txid), ("index", Json.toJson point.index)]
  ofJson? json := do
    let [txid, index] ← json.fields? ["txid", "index"] | none
    some { txid := ← Json.required? txid, index := ← Json.required? index }

end OutPoint

end Purse
