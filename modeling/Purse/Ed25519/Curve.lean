import Purse.Ed25519.Field

/-!
# The twisted Edwards curve of Ed25519

Points in extended coordinates: `x = X / Z`, `y = Y / Z`, and `x * y = T / Z`.
-/

namespace Purse.Ed25519

structure Point where
  x : Field
  y : Field
  z : Field
  t : Field
  deriving DecidableEq

namespace Point

/-- The constant of the curve, `-121665 / 121666`. -/
def curveConstant : Field :=
  -(Field.ofNat 121665) * Field.inverse (Field.ofNat 121666)

def identity : Point := ⟨0, 1, 1, 0⟩

def ofAffine (x y : Field) : Point := ⟨x, y, 1, x * y⟩

def add (p q : Point) : Point :=
  let a := (p.y - p.x) * (q.y - q.x)
  let b := (p.y + p.x) * (q.y + q.x)
  let c := (curveConstant + curveConstant) * p.t * q.t
  let d := (p.z + p.z) * q.z
  let e := b - a
  let f := d - c
  let g := d + c
  let h := b + a
  ⟨e * f, g * h, f * g, e * h⟩

def double (p : Point) : Point :=
  let a := p.x * p.x
  let b := p.y * p.y
  let c := p.z * p.z + p.z * p.z
  let h := a + b
  let e := h - (p.x + p.y) * (p.x + p.y)
  let g := a - b
  let f := c + g
  ⟨e * f, g * h, f * g, e * h⟩

def negate (p : Point) : Point :=
  ⟨-p.x, p.y, p.z, -p.t⟩

/-- The point added to itself `scalar` times, by doubling. -/
def multiply (scalar : Nat) (p : Point) : Point :=
  if scalar = 0 then identity
  else
    let half := double (multiply (scalar / 2) p)
    if scalar % 2 = 1 then add half p else half
termination_by scalar
decreasing_by omega

/-- The `y` coordinate, with the sign of `x` in the top bit. -/
def compress (p : Point) : FixedBytes 32 :=
  let inverse := Field.inverse p.z
  let x := p.x * inverse
  let y := p.y * inverse
  FixedBytes.ofNat 32 (y.val + if Field.isNegative x then 1 <<< 255 else 0)

/-- The point with the given compressed form, if the curve has one. A `y` that is not reduced is
accepted, and so is a sign bit on `x = 0`. -/
def decompress? (bytes : FixedBytes 32) : Option Point :=
  let y := Field.ofBytes bytes
  let square := y * y
  match Field.rootOfRatio? (square - 1) (curveConstant * square + 1) with
  | none => none
  | some root => some (ofAffine (if bytes.toNat < 1 <<< 255 then root else -root) y)

/-- The base point, with `y = 4 / 5` and `x` not negative. -/
def base : Point :=
  (decompress? (FixedBytes.ofNat 32
    0x6666666666666666666666666666666666666666666666666666666666666658)).getD identity

end Point

end Purse.Ed25519
