import Purse.Cause
import Purse.Transaction.Encoding
import Purse.Transaction.Signing

/-!
# Consistent transactions

The form of a transaction is checked first: that it has inputs and outputs, that the outputs are
positive with a sum in 64 bits, that the encoding is not too long, and that every input spends an
outpoint of its own and is signed. Then each input is verified and the totals are compared. The
first condition that fails is the one reported.
-/

namespace Purse

inductive ValidityError where
  | invalidSignature (index : Nat)
  | duplicateInput (input : Cause OutPoint)
  | oversized (size limit : Nat)
  | emptyInputsOrOutputs
  | valueOverflow
  | serialization (detail : String)
  | zeroValueOutput (index : Nat)
  | nullOutpoint (index : Nat)
  | prevoutMismatch (inputs scripts values : Nat)
  | insufficientFunds (available needed : Amount)
  deriving DecidableEq

def ValidityError.message : ValidityError → String
  | .invalidSignature index => "invalid signature on input " ++ Decimal.print index
  | .duplicateInput input => "duplicate input: " ++ input.describe OutPoint.toText
  | .oversized size limit =>
      "oversized: " ++ Decimal.print size ++ " > " ++ Decimal.print limit
  | .emptyInputsOrOutputs => "empty inputs or outputs"
  | .valueOverflow => "value overflow"
  | .serialization detail => "serialization: " ++ detail
  | .zeroValueOutput index => "zero-value output at index " ++ Decimal.print index
  | .nullOutpoint index => "null outpoint in input " ++ Decimal.print index
  | .prevoutMismatch inputs scripts values =>
      "prevout data mismatch: " ++ Decimal.print inputs ++ " inputs, " ++
        Decimal.print scripts ++ " scripts, " ++ Decimal.print values ++ " values"
  | .insufficientFunds available needed =>
      "outputs exceed inputs: have " ++ Decimal.print available.toNat ++ ", need " ++
        Decimal.print needed.toNat

/-- The totals of a consistent transaction. -/
structure SpendTotals where
  totalInput : Amount
  totalOutput : Amount
  fee : Amount
  deriving DecidableEq

namespace Transaction

/-- The greatest length of an encoding in bytes. -/
def maxSize : Nat := 100000

/-- Refuses the first output without value, counting from `index`. -/
def checkOutputs (index : Nat) : List Output → Except ValidityError Unit
  | [] => .ok ()
  | output :: rest =>
      if output.value = 0 then .error (.zeroValueOutput index) else checkOutputs (index + 1) rest

/-- Refuses the first input, counting from `index`, that is null, repeats an outpoint in `seen` or
an earlier one, or has no signature and key of the right lengths. -/
def checkInputs (seen : List OutPoint) (index : Nat) : List Input → Except ValidityError Unit
  | [] => .ok ()
  | input :: rest =>
      if input.previousOutput.isNull then .error (.nullOutpoint index)
      else if input.previousOutput ∈ seen then
        .error (.duplicateInput (.found input.previousOutput))
      else if input.signature.length ≠ 64 ∨ input.publicKey.length ≠ 32 then
        .error (.invalidSignature index)
      else checkInputs (input.previousOutput :: seen) (index + 1) rest

def checkStructure (tx : Transaction) : Except ValidityError Unit :=
  if tx.inputs.isEmpty || tx.outputs.isEmpty then .error .emptyInputsOrOutputs
  else
    match checkOutputs 0 tx.outputs with
    | .error fault => .error fault
    | .ok () =>
        if tx.totalOutput?.isNone then .error .valueOverflow
        else
          let size := tx.encode.length
          if size > maxSize then .error (.oversized size maxSize)
          else checkInputs [] 0 tx.inputs

/-- Verifies one input after another from `index` on, against the outputs they spend. -/
def verifyInputs (tx : Transaction) (index : Nat) :
    List (Script × Amount) → Except ValidityError Unit
  | [] => .ok ()
  | (script, value) :: rest =>
      match tx.verifyInput index script value with
      | .error _ => .error (.invalidSignature index)
      | .ok () => verifyInputs tx (index + 1) rest

/-- Checks a signed transaction against the scripts and values of the outputs it spends. -/
def validateSpend (tx : Transaction) (scripts : List Script) (values : List Amount) :
    Except ValidityError SpendTotals :=
  if scripts.length ≠ tx.inputs.length ∨ values.length ≠ tx.inputs.length then
    .error (.prevoutMismatch tx.inputs.length scripts.length values.length)
  else
    match tx.checkStructure with
    | .error fault => .error fault
    | .ok () =>
        match tx.verifyInputs 0 (scripts.zip values) with
        | .error fault => .error fault
        | .ok () =>
            match Amount.sum? values, tx.totalOutput? with
            | some totalInput, some totalOutput =>
                if totalInput < totalOutput then .error (.insufficientFunds totalInput totalOutput)
                else .ok ⟨totalInput, totalOutput, totalInput - totalOutput⟩
            | _, _ => .error .valueOverflow

end Transaction

end Purse
