import Purse.Amount
import Purse.OutPoint
import Purse.Script

/-!
# Transactions

An input is unsigned as long as its signature and public key are empty.
-/

namespace Purse

structure Input where
  previousOutput : OutPoint
  signature : Bytes
  publicKey : Bytes
  deriving DecidableEq

structure Output where
  value : Amount
  script : Script
  deriving DecidableEq

structure Transaction where
  version : UInt64
  inputs : List Input
  outputs : List Output
  /-- The height below which the transaction is not valid. -/
  lockTime : UInt64
  deriving DecidableEq

namespace Input

def unsigned (previousOutput : OutPoint) : Input := ⟨previousOutput, [], []⟩

def isSigned (input : Input) : Bool :=
  !input.signature.isEmpty && !input.publicKey.isEmpty

instance : Json.Form Input where
  toJson input :=
    .ofFields [("previous_output", Json.toJson input.previousOutput),
      ("signature", Json.toJson input.signature), ("public_key", Json.toJson input.publicKey)]
  ofJson? json := do
    let [previousOutput, signature, publicKey] ←
      json.fields? ["previous_output", "signature", "public_key"] | none
    some {
      previousOutput := ← Json.required? previousOutput
      signature := ← Json.required? signature
      publicKey := ← Json.required? publicKey }

end Input

namespace Output

instance : Json.Form Output where
  toJson output :=
    .ofFields [("value", Json.toJson output.value), ("script", Json.toJson output.script)]
  ofJson? json := do
    let [value, script] ← json.fields? ["value", "script"] | none
    some { value := ← Json.required? value, script := ← Json.required? script }

end Output

namespace Transaction

/-- The version that every authored transaction carries. -/
def currentVersion : UInt64 := 2

/-- A coinbase transaction has one input, which spends the null outpoint. -/
def isCoinbase (tx : Transaction) : Bool :=
  match tx.inputs with
  | [input] => input.previousOutput.isNull
  | _ => false

/-- The sum of the output values, unless it passes 64 bits. -/
def totalOutput? (tx : Transaction) : Option Amount :=
  Amount.sum? (tx.outputs.map Output.value)

instance : Json.Form Transaction where
  toJson tx :=
    .ofFields [("version", Json.toJson tx.version), ("inputs", Json.toJson tx.inputs),
      ("outputs", Json.toJson tx.outputs), ("lock_time", Json.toJson tx.lockTime)]
  ofJson? json := do
    let [version, inputs, outputs, lockTime] ←
      json.fields? ["version", "inputs", "outputs", "lock_time"] | none
    some {
      version := ← Json.required? version
      inputs := ← Json.required? inputs
      outputs := ← Json.required? outputs
      lockTime := ← Json.required? lockTime }

end Transaction

end Purse
