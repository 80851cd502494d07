import Purse.Transaction.Basic

/-!
# The canonical encoding of transactions

Numbers and lengths take one byte below 251, and otherwise a marker byte for their width followed
by two, four or eight little-endian bytes. Digests are written as they are, lists after their
length, and the fields of a record one after another. A transaction is named by the digest of its
encoding.
-/

namespace Purse

namespace Encoding

def number (value : Nat) : Bytes :=
  if value < 251 then Bytes.ofNat 1 value
  else if value < UInt16.size then 251 :: Bytes.ofNat 2 value
  else if value < UInt32.size then 252 :: Bytes.ofNat 4 value
  else 253 :: Bytes.ofNat 8 value

def digest (value : Digest) : Bytes :=
  value.bytes.toBytes

def byteList (bytes : Bytes) : Bytes :=
  number bytes.length ++ bytes

def list {α : Type} (item : α → Bytes) (values : List α) : Bytes :=
  number values.length ++ values.flatMap item

def outPoint (point : OutPoint) : Bytes :=
  digest point.txid ++ number point.index.toNat

def script (value : Script) : Bytes :=
  number value.kind.code ++ digest value.pubkeyHash

def input (value : Input) : Bytes :=
  outPoint value.previousOutput ++ byteList value.signature ++ byteList value.publicKey

def output (value : Output) : Bytes :=
  number value.value.toNat ++ script value.script

end Encoding

namespace Transaction

def encode (tx : Transaction) : Bytes :=
  Encoding.number tx.version.toNat ++ Encoding.list Encoding.input tx.inputs ++
    Encoding.list Encoding.output tx.outputs ++ Encoding.number tx.lockTime.toNat

def txid (tx : Transaction) : Digest :=
  Digest.ofBytes tx.encode

end Transaction

end Purse
