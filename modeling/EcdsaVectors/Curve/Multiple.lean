/-
Multiples of a point.

A division is far dearer than a product, and the sum of two points needs one.  So the multiples
are made in coordinates that put the division off to the end: the triple `(X, Y, Z)` stands for
the point with the coordinates `X / Z²` and `Y / Z³`, and for the point at infinity when `Z` is
zero.  A slope has the form `N / Z'`, where `Z'` is the last coordinate of the sum, so that the
sum is found from `N` and `Z'` without a division.
-/
import EcdsaVectors.Curve
namespace EcdsaVectors

/-- A point written with a common denominator. -/
structure Projective where
  x : Nat
  y : Nat
  z : Nat
  deriving DecidableEq

namespace Curve

variable (C : Curve)

/-- The point that a triple stands for. -/
def ofProjective (P : Projective) : Point :=
  let F := C.field
  if P.z = 0 then .infinity
  else
    let i := F.inv P.z
    let ii := F.square i
    .affine (F.mul P.x ii) (F.mul P.y (F.mul i ii))

/-- The sum of two points on a line of slope `n / z`, where `z` is the last coordinate of the
sum.  Times `z²` the abscissas of the two points are `u₁` and `u₂`, and times `z³` the ordinate
of the first is `v₁`. -/
def thirdProjective (u₁ u₂ v₁ n z : Nat) : Projective :=
  let F := C.field
  let x := F.sub (F.sub (F.sub (F.mul n (F.add n (F.mul C.a₁ z))) (F.mul C.a₂ (F.square z))) u₁) u₂
  let y := F.add (F.mul n (F.sub x u₁)) v₁
  ⟨x, F.neg (F.add y (F.mul C.a₁ (F.mul x z))), z⟩

/-- Twice a point.  The tangent has the slope `n / (d * z)`, and where it is upright `d` is
zero. -/
def double (P : Projective) : Projective :=
  let F := C.field
  let zz := F.square P.z
  let d := F.add (F.add P.y P.y) (F.mul C.a₁ (F.mul P.x P.z))
  let n := F.sub
    (F.add (F.mul P.x (F.add (F.mul (F.add C.a₂ C.a₂) zz) (F.add P.x (F.add P.x P.x))))
      (F.mul C.a₄ (F.square zz)))
    (F.mul C.a₁ (F.mul P.y P.z))
  let dd := F.square d
  let u := F.mul P.x dd
  C.thirdProjective u u (F.mul P.y (F.mul d dd)) n (F.mul P.z d)

/-- The sum of a point and the point `(x, y)`.  The line through them has the slope
`r / (h * z)`.  Where `h` is zero the points are equal, which calls for the tangent, or
opposite, and then the last coordinate of the sum is zero. -/
def addAffine (x y : Nat) (P : Projective) : Projective :=
  let F := C.field
  if P.z = 0 then ⟨x, y, 1⟩
  else
    let zz := F.square P.z
    let h := F.sub (F.mul x zz) P.x
    let r := F.sub (F.mul y (F.mul P.z zz)) P.y
    if h = 0 ∧ r = 0 then C.double P
    else
      let hh := F.square h
      C.thirdProjective (F.mul P.x hh) (F.mul (F.mul x zz) hh) (F.mul P.y (F.mul h hh)) r
        (F.mul P.z h)

/-- The `k`-fold of a point. -/
def multiple (k : Nat) : Point → Point
  | .infinity => .infinity
  | .affine x y => C.ofProjective (ladder C.double (C.addAffine x y) ⟨1, 1, 0⟩ k)

@[simp] theorem multiple_infinity (k : Nat) : C.multiple k .infinity = .infinity := rfl

end Curve

end EcdsaVectors
