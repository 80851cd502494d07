/-!
# Byte strings

Byte strings of any length, byte strings of a fixed length, and the little-endian form of a
natural number.
-/

namespace Purse

abbrev Bytes := List UInt8

namespace Bytes

/-- The `width` lowest bytes of `value`, least significant first. -/
def ofNat : (width value : Nat) → Bytes
  | 0, _ => []
  | width + 1, value => UInt8.ofNat value :: ofNat width (value / 256)

/-- The number whose little-endian form is the given byte string. -/
def toNat : Bytes → Nat
  | [] => 0
  | byte :: rest => byte.toNat + 256 * toNat rest

/-- The UTF-8 form of a text. -/
def ofText (text : String) : Bytes :=
  text.toUTF8.data.toList

@[simp]
theorem length_ofNat (width value : Nat) : (ofNat width value).length = width := by
  induction width generalizing value with
  | zero => rfl
  | succ width ih => simp [ofNat, ih]

theorem toNat_ofNat (width value : Nat) (hvalue : value < 1 <<< (8 * width)) :
    toNat (ofNat width value) = value := by
  induction width generalizing value with
  | zero => exact (Nat.lt_one_iff.1 hvalue).symm
  | succ width ih =>
      have hquotient : value / 256 < 1 <<< (8 * width) := by
        rw [Nat.div_lt_iff_lt_mul (by decide)]
        rwa [Nat.mul_succ, Nat.shiftLeft_add, Nat.shiftLeft_eq _ 8] at hvalue
      simp only [ofNat, toNat, ih _ hquotient, UInt8.toNat_ofNat']
      omega

/-- Byte strings compare like words in a dictionary. -/
def compare : Bytes → Bytes → Ordering
  | [], [] => .eq
  | [], _ :: _ => .lt
  | _ :: _, [] => .gt
  | a :: as, b :: bs => (Ord.compare a.toNat b.toNat).then (compare as bs)

end Bytes

/-- Byte strings of length `size`. -/
structure FixedBytes (size : Nat) where
  toBytes : Bytes
  length_toBytes : toBytes.length = size
  deriving DecidableEq

namespace FixedBytes

variable {size : Nat}

theorem toBytes_inj {a b : FixedBytes size} : a.toBytes = b.toBytes ↔ a = b := by
  cases a; cases b; simp

def ofBytes? (size : Nat) (bytes : Bytes) : Option (FixedBytes size) :=
  if hlength : bytes.length = size then some ⟨bytes, hlength⟩ else none

@[simp]
theorem ofBytes?_toBytes (value : FixedBytes size) : ofBytes? size value.toBytes = some value := by
  simp [ofBytes?, value.length_toBytes]

theorem ofBytes?_eq_some_iff {bytes : Bytes} {value : FixedBytes size} :
    ofBytes? size bytes = some value ↔ value.toBytes = bytes := by
  constructor
  · intro heq
    unfold ofBytes? at heq
    split at heq
    · cases heq; rfl
    · cases heq
  · intro heq
    rw [← heq, ofBytes?_toBytes]

/-- The `size` lowest little-endian bytes of `value`. -/
def ofNat (size value : Nat) : FixedBytes size :=
  ⟨Bytes.ofNat size value, Bytes.length_ofNat size value⟩

def toNat (value : FixedBytes size) : Nat :=
  Bytes.toNat value.toBytes

def replicate (size : Nat) (byte : UInt8) : FixedBytes size :=
  ⟨List.replicate size byte, by simp⟩

instance : Inhabited (FixedBytes size) := ⟨replicate size 0⟩

/-- Two fixed strings one after the other. -/
def append {left right : Nat} (a : FixedBytes left) (b : FixedBytes right) :
    FixedBytes (left + right) :=
  ⟨a.toBytes ++ b.toBytes, by simp [a.length_toBytes, b.length_toBytes]⟩

end FixedBytes

end Purse
