/-
Elliptic curves and the addition of their points.

One equation serves both kinds of fields,

  `y² + a₁xy = x³ + a₂x² + a₄x + a₆`.

Over a prime field the coefficients `a₁` and `a₂` are zero; over a binary field `a₁` is one and
`a₄` is zero.  The line through two points, or the tangent at one, has a slope, and the third
point on it is found from the slope alone, whatever the kind of the field.
-/
import EcdsaVectors.Field
namespace EcdsaVectors

/-- A point of a curve: the point at infinity, or a pair of elements of the field. -/
inductive Point where
  | infinity
  | affine (x y : Nat)
  deriving DecidableEq, Repr

/-- A curve over a finite field, given by the coefficients of its equation. -/
structure Curve where
  field : Field
  a₁ : Nat
  a₂ : Nat
  a₄ : Nat
  a₆ : Nat
  deriving DecidableEq

namespace Curve

variable (C : Curve)

/-- Whether a pair of elements satisfies the equation of the curve. -/
def HasPoint (x y : Nat) : Prop :=
  let F := C.field
  F.add (F.square y) (F.mul C.a₁ (F.mul x y)) =
    F.add (F.mul x (F.add (F.mul x (F.add x C.a₂)) C.a₄)) C.a₆

instance (x y : Nat) : Decidable (C.HasPoint x y) :=
  inferInstanceAs (Decidable (_ = _))

/-- The second coordinate of the point opposite to `(x, y)`. -/
def negY (x y : Nat) : Nat :=
  let F := C.field
  F.neg (F.add y (F.mul C.a₁ x))

/-- The point opposite to a point. -/
def neg : Point → Point
  | .infinity => .infinity
  | .affine x y => .affine x (C.negY x y)

/-- The sum of two points with the abscissas `x₁` and `x₂`, the first of which has the ordinate
`y₁`, on a line of slope `l`. -/
def third (x₁ x₂ y₁ l : Nat) : Point :=
  let F := C.field
  let x := F.sub (F.sub (F.sub (F.add (F.square l) (F.mul C.a₁ l)) C.a₂) x₁) x₂
  .affine x (C.negY x (F.add (F.mul l (F.sub x x₁)) y₁))

/-- The sum of two points. -/
def add : Point → Point → Point
  | .infinity, Q => Q
  | P, .infinity => P
  | .affine x₁ y₁, .affine x₂ y₂ =>
    let F := C.field
    if x₁ = x₂ then
      if y₁ = C.negY x₂ y₂ then .infinity
      else
        -- the points are equal, and the line is the tangent
        let rise := F.sub (F.add (F.mul x₁ (F.add (F.add C.a₂ C.a₂) (F.add x₁ (F.add x₁ x₁)))) C.a₄)
          (F.mul C.a₁ y₁)
        C.third x₁ x₂ y₁ (F.mul rise (F.inv (F.sub y₁ (C.negY x₁ y₁))))
    else C.third x₁ x₂ y₁ (F.mul (F.sub y₂ y₁) (F.inv (F.sub x₂ x₁)))

@[simp] theorem add_infinity (P : Point) : C.add P .infinity = P := by
  cases P <;> rfl

@[simp] theorem infinity_add (P : Point) : C.add .infinity P = P := by
  cases P <;> rfl

end Curve

end EcdsaVectors
