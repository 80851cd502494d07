import Purse.Hash.Blake3
import Purse.Json.Form
import Purse.Text.Hex

/-!
# Digests

The 32-byte hashes that name transactions and stand for public keys in scripts. They are written
as 64 lowercase hexadecimal digits.
-/

namespace Purse

structure Digest where
  bytes : FixedBytes 32
  deriving DecidableEq, Inhabited

namespace Digest

def zero : Digest := ⟨FixedBytes.replicate 32 0⟩

def isZero (digest : Digest) : Bool :=
  digest = zero

/-- The digest of a byte string. -/
def ofBytes (bytes : Bytes) : Digest :=
  ⟨Blake3.hash bytes⟩

def toText (digest : Digest) : String :=
  Hex.encode digest.bytes.toBytes

def parse (text : String) : Except Hex.Fault Digest :=
  match Hex.decodeFixed 32 text with
  | .error fault => .error fault
  | .ok bytes => .ok ⟨bytes⟩

/-- Digests are ordered by their first byte that differs. -/
def compare (a b : Digest) : Ordering :=
  Bytes.compare a.bytes.toBytes b.bytes.toBytes

instance : Json.Form Digest where
  toJson digest := .ofText digest.toText
  ofJson? json :=
    match Json.ofJson? json with
    | none => none
    | some text =>
        match parse text with
        | .error _ => none
        | .ok digest => some digest

end Digest

end Purse
