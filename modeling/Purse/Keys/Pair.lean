import Purse.Digest
import Purse.Ed25519.Signature

/-!
# Key pairs

Ed25519 keys as the wallet uses them: a public key is known by the digest of its bytes.
-/

namespace Purse

/-- A public key, as its bytes and as the curve point they stand for. -/
structure PublicKey where
  bytes : FixedBytes 32
  point : Ed25519.Point
  deriving DecidableEq

namespace PublicKey

/-- The key with the given bytes, if they stand for a point. The bytes are kept as they are. -/
def ofBytes? (bytes : FixedBytes 32) : Option PublicKey :=
  (Ed25519.Point.decompress? bytes).map fun point => ⟨bytes, point⟩

/-- The digest that scripts commit to. -/
def hashBytes (bytes : FixedBytes 32) : Digest :=
  Digest.ofBytes bytes.toBytes

def hash (key : PublicKey) : Digest :=
  hashBytes key.bytes

def verify (key : PublicKey) (message : Bytes) (signature : FixedBytes 64) : Bool :=
  Ed25519.verify key.bytes key.point message signature

/-- The key as logs show it. -/
def describe (key : PublicKey) : String :=
  "PublicKey(" ++ Hex.encode key.bytes.toBytes ++ ")"

end PublicKey

structure KeyPair where
  secret : FixedBytes 32
  deriving DecidableEq

namespace KeyPair

def publicKey (pair : KeyPair) : PublicKey :=
  let point := Ed25519.publicPoint pair.secret
  ⟨point.compress, point⟩

def sign (pair : KeyPair) (message : Bytes) : FixedBytes 64 :=
  Ed25519.sign pair.secret message

/-- The pair as logs show it, without its secret. -/
def describe (pair : KeyPair) : String :=
  "KeyPair \x7b public_key: " ++ pair.publicKey.describe ++ ", .. \x7d"

end KeyPair

end Purse
