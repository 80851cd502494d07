import Purse.Ed25519.Curve
import Purse.Hash.Sha512

/-!
# Ed25519 signatures

Signing as in RFC 8032. Verification compares the recomputed point with the signature's bytes in
compressed form, without the cofactor, and refuses a scalar that is not reduced.
-/

namespace Purse.Ed25519

def groupOrder : Nat :=
  (1 <<< 252) + 27742317777372353535851937790883648493

/-- The secret scalar of a 32-byte secret, three bits cleared below and the top two bits set. -/
def secretScalar (expanded : FixedBytes 64) : Nat :=
  let low := Bytes.toNat (expanded.toBytes.take 32)
  low % (1 <<< 254) / 8 * 8 + (1 <<< 254)

def scalarOfHash (digest : FixedBytes 64) : Nat :=
  digest.toNat % groupOrder

def publicPoint (secret : FixedBytes 32) : Point :=
  Point.multiply (secretScalar (Sha512.hash secret.toBytes)) Point.base

/-- The challenge of a signature that starts with `commitment`. -/
def challenge (commitment publicKey : FixedBytes 32) (message : Bytes) : Nat :=
  scalarOfHash (Sha512.hash (commitment.toBytes ++ publicKey.toBytes ++ message))

def sign (secret : FixedBytes 32) (message : Bytes) : FixedBytes 64 :=
  let expanded := Sha512.hash secret.toBytes
  let scalar := secretScalar expanded
  let publicKey := (Point.multiply scalar Point.base).compress
  let nonce := scalarOfHash (Sha512.hash (expanded.toBytes.drop 32 ++ message))
  let commitment := (Point.multiply nonce Point.base).compress
  let response := (nonce + challenge commitment publicKey message * scalar) % groupOrder
  commitment.append (FixedBytes.ofNat 32 response)

/-- Whether `signature` is valid for `message` under the key whose bytes are `publicKey` and whose
point is `point`. -/
def verify (publicKey : FixedBytes 32) (point : Point) (message : Bytes)
    (signature : FixedBytes 64) : Bool :=
  let response := Bytes.toNat (signature.toBytes.drop 32)
  match FixedBytes.ofBytes? 32 (signature.toBytes.take 32) with
  | none => false
  | some commitment =>
      let recomputed :=
        (Point.multiply response Point.base).add
          (Point.multiply (challenge commitment publicKey message) point.negate)
      response < groupOrder && recomputed.compress = commitment

end Purse.Ed25519
