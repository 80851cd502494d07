import Purse.Keys.Pair
import Purse.Text.Decimal
import Purse.Transaction.Sighash

/-!
# Signing and verifying inputs

Inputs may be signed in any order, since no signature is part of what another one commits to.
-/

namespace Purse

def SigningError.message : SigningError → String
  | .invalidPublicKey => "invalid public key bytes"
  | .invalidSignature => "invalid signature bytes"
  | .verificationFailed => "signature verification failed"
  | .pubkeyHashMismatch => "pubkey hash does not match expected"
  | .inputIndexOutOfBounds index length =>
      "input index out of bounds: " ++ Decimal.print index ++ " >= " ++ Decimal.print length

namespace Transaction

/-- The transaction with input `index` signed by `pair`. -/
def signInput (tx : Transaction) (index : Nat) (script : Script) (value : Amount)
    (pair : KeyPair) : Except SigningError Transaction :=
  match tx.signingHash index script value with
  | .error fault => .error fault
  | .ok digest =>
      let signed (input : Input) : Input :=
        { input with
          signature := (pair.sign digest.bytes.toBytes).toBytes
          publicKey := pair.publicKey.bytes.toBytes }
      .ok { tx with inputs := tx.inputs.modify index signed }

/-- Checks input `index` against the output it spends: first the key, then its digest, then the
signature. -/
def verifyInput (tx : Transaction) (index : Nat) (script : Script) (value : Amount) :
    Except SigningError Unit :=
  match tx.signingHash index script value with
  | .error fault => .error fault
  | .ok digest =>
      match tx.inputs[index]? with
      | none => .error (.inputIndexOutOfBounds index tx.inputs.length)
      | some input =>
          match (FixedBytes.ofBytes? 32 input.publicKey).bind PublicKey.ofBytes? with
          | none => .error .invalidPublicKey
          | some key =>
              if key.hash ≠ script.pubkeyHash then .error .pubkeyHashMismatch
              else
                match FixedBytes.ofBytes? 64 input.signature with
                | none => .error .invalidSignature
                | some signature =>
                    if key.verify digest.bytes.toBytes signature then .ok ()
                    else .error .verificationFailed

end Transaction

end Purse
