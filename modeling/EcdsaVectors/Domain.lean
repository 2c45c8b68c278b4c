/-
Domains: a curve with a base point of known order.

The points that serve as public keys are the multiples of the base point.  They are all finite
points of the curve when the cofactor is one; otherwise a point is asked to vanish when
multiplied by the order (`publicPoint?`).
-/
import EcdsaVectors.Curve.Multiple
namespace EcdsaVectors

/-- A curve with a base point. -/
structure Domain where
  curve : Curve
  /-- The coordinates of the base point, as elements of the field. -/
  baseX : Nat
  baseY : Nat
  /-- The order of the base point, a prime. -/
  order : Nat
  /-- The number of points of the curve divided by the order. -/
  cofactor : Nat
  deriving DecidableEq

namespace Domain

/-- The domain of the curve `y² = x³ + ax + b` over a prime field. -/
def overPrime (p a b x y n : Nat) : Domain where
  curve := ⟨.prime p, 0, 0, a, b⟩
  baseX := x
  baseY := y
  order := n
  cofactor := 1

/-- The domain of the curve `y² + xy = x³ + ax² + b` over a binary field.  The numbers `a`,
`b`, `x` and `y` have the coefficients of the elements as their binary digits. -/
def overBinary (M : Spread.Modulus) (a b x y n h : Nat) : Domain where
  curve := ⟨.binary M, 1, Spread.ofBits M.degree a, 0, Spread.ofBits M.degree b⟩
  baseX := Spread.ofBits M.degree x
  baseY := Spread.ofBits M.degree y
  order := n
  cofactor := h

variable (D : Domain)

/-- The base point. -/
def base : Point := .affine D.baseX D.baseY

/-- The size of the field in bits. -/
def degree : Nat := D.curve.field.degree

/-- The size of the order in bits. -/
def orderBits : Nat := D.order.log2 + 1

/-- The number of octets that hold every element of the field. -/
def fieldLength : Nat := (D.degree + 7) / 8

/-- The point with the given coordinates, if it is one that a public key can be: the
coordinates are in the range of the field, they satisfy the equation of the curve, and the
order annihilates the point. -/
def publicPoint? (x y : Nat) : Option (Nat × Nat) := do
  let x ← D.curve.field.ofNat? x
  let y ← D.curve.field.ofNat? y
  if D.curve.HasPoint x y ∧
      (D.cofactor = 1 ∨ D.curve.multiple D.order (.affine x y) = .infinity) then
    some (x, y)
  else none

end Domain

end EcdsaVectors
