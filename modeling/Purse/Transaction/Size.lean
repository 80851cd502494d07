import Purse.Transaction.Basic

/-!
# Virtual size

Bytes outside the witness count fully, and witness bytes count a quarter, rounded up over the whole
transaction. Signatures are taken at their greatest length, so that no estimate is too small.
-/

namespace Purse

namespace Size

/-- Version and lock time. -/
def overhead : Nat := 8

/-- How many witness bytes weigh as much as one other byte. -/
def witnessScale : Nat := 4

/-- The marker bytes of a transaction that has witness data. -/
def witnessHeader : Nat := 2

def divideUp (value divisor : Nat) : Nat :=
  (value + divisor - 1) / divisor

end Size

namespace ScriptKind

/-- The bytes outside the witness of an input that spends the kind. -/
def inputBaseSize : ScriptKind → Nat
  | .p2pkh => 149
  | .p2wpkh | .p2tr => 41
  | .np2wpkh => 64

/-- The witness bytes of an input that spends the kind. -/
def inputWitnessWeight : ScriptKind → Nat
  | .p2pkh => 0
  | .p2wpkh | .np2wpkh => 109
  | .p2tr => 66

/-- The bytes of an output locked to the kind. -/
def outputSize : ScriptKind → Nat
  | .p2pkh => 34
  | .p2wpkh => 31
  | .np2wpkh => 32
  | .p2tr => 43

/-- The virtual size of an input that spends the kind. -/
def minInputVsize (kind : ScriptKind) : Nat :=
  kind.inputBaseSize + Size.divideUp kind.inputWitnessWeight Size.witnessScale

end ScriptKind

/-- The length of a compact-size count. -/
def compactSizeLength (count : Nat) : Nat :=
  if count ≤ 0xFC then 1
  else if count ≤ 0xFFFF then 3
  else if count ≤ 0xFFFFFFFF then 5
  else 9

namespace Size

/-- The sum of a measure over a list of kinds. -/
def total (measure : ScriptKind → Nat) : List ScriptKind → Nat
  | [] => 0
  | kind :: rest => measure kind + total measure rest

/-- The bytes outside the witness, for outputs of the given kinds. -/
def base (inputs outputs : List ScriptKind) : Nat :=
  overhead + compactSizeLength inputs.length + compactSizeLength outputs.length +
    total ScriptKind.inputBaseSize inputs + total ScriptKind.outputSize outputs

def witness (inputs : List ScriptKind) : Nat :=
  total ScriptKind.inputWitnessWeight inputs +
    if inputs.any ScriptKind.isWitness then witnessHeader else 0

end Size

/-- The virtual size of a signed transaction that spends outputs of the kinds `inputs`. A `change`
output is counted after `outputs`. -/
def estimateVirtualSize (inputs : List ScriptKind) (outputs : List Output)
    (change : Option ScriptKind) : Nat :=
  Size.base inputs (outputs.map (fun output => output.script.kind) ++ change.toList) +
    Size.divideUp (Size.witness inputs) Size.witnessScale

end Purse
