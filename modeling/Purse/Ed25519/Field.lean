import Purse.Bytes

/-!
# The field of 2^255 - 19 elements

Arithmetic is that of `Fin`; powers and square roots are added here.
-/

namespace Purse.Ed25519

def fieldOrder : Nat := (1 <<< 255) - 19

instance : @NeZero Nat Zero.ofOfNat0 fieldOrder := ⟨by decide⟩

abbrev Field := Fin fieldOrder

namespace Field

def ofNat (value : Nat) : Field :=
  ⟨value % fieldOrder, Nat.mod_lt _ (by decide)⟩

/-- Reads 255 bits in little-endian order and drops the top bit. Values that are not reduced are
accepted. -/
def ofBytes (bytes : FixedBytes 32) : Field :=
  ofNat (bytes.toNat % (1 <<< 255))

def toBytes (x : Field) : FixedBytes 32 :=
  FixedBytes.ofNat 32 x.val

/-- The power by repeated squaring. -/
def power (base : Field) (exponent : Nat) : Field :=
  if exponent = 0 then 1
  else
    let half := power base (exponent / 2)
    if exponent % 2 = 1 then half * half * base else half * half
termination_by exponent
decreasing_by omega

def inverse (x : Field) : Field :=
  power x (fieldOrder - 2)

/-- An element is negative if its reduced form is odd. -/
def isNegative (x : Field) : Bool :=
  x.val % 2 = 1

/-- The square root of minus one that is not negative. -/
def rootOfMinusOne : Field :=
  power 2 ((fieldOrder - 1) / 4)

/-- The square root of `u / v` that is not negative, if there is one. -/
def rootOfRatio? (u v : Field) : Option Field :=
  let cube := v * v * v
  let candidate := u * cube * power (u * cube * cube * v) ((fieldOrder - 5) / 8)
  let check := v * (candidate * candidate)
  let root? :=
    if check = u then some candidate
    else if check = -u then some (candidate * rootOfMinusOne)
    else none
  root?.map fun root => if isNegative root then -root else root

end Field

end Purse.Ed25519
