import Purse.Transaction.Basic

/-!
# What an input's signature commits to

The bytes under a signature are the version, every outpoint, every output, the lock time, the
position of the signed input, and the script and value of the output it spends. No signature and
no public key is among them.
-/

namespace Purse

inductive SigningError where
  | invalidPublicKey
  | invalidSignature
  | verificationFailed
  | pubkeyHashMismatch
  | inputIndexOutOfBounds (index length : Nat)
  deriving DecidableEq

namespace Sighash

def context : String := "quill-sighash-v1"

def word (value : Nat) : Bytes :=
  Bytes.ofNat 8 value

def script (value : Script) : Bytes :=
  Bytes.ofText value.kind.tag ++ value.pubkeyHash.bytes.toBytes

def outPoint (point : OutPoint) : Bytes :=
  point.txid.bytes.toBytes ++ word point.index.toNat

def output (value : Output) : Bytes :=
  word value.value.toNat ++ script value.script

end Sighash

namespace Transaction

/-- The bytes under the signature of input `index`, which spends `value` locked by `script`. -/
def signingPreimage (tx : Transaction) (index : Nat) (script : Script) (value : Amount) : Bytes :=
  Bytes.ofText Sighash.context ++ Sighash.word tx.version.toNat ++
    Sighash.word tx.inputs.length ++
    tx.inputs.flatMap (fun input => Sighash.outPoint input.previousOutput) ++
    Sighash.word tx.outputs.length ++ tx.outputs.flatMap Sighash.output ++
    Sighash.word tx.lockTime.toNat ++ Sighash.word index ++ Sighash.script script ++
    Sighash.word value.toNat

def signingHash (tx : Transaction) (index : Nat) (script : Script) (value : Amount) :
    Except SigningError Digest :=
  if index < tx.inputs.length then .ok (Digest.ofBytes (tx.signingPreimage index script value))
  else .error (.inputIndexOutOfBounds index tx.inputs.length)

end Transaction

end Purse
