/-
Curves as Weierstrass curves.

Over a field whose elements are written as numbers, a curve is written as a Weierstrass curve
without the coefficient `a₃`, and the chord and tangent construction is the group law that is
known of these curves (`Realization.add_point`).  Multiples are made in coordinates with a
common denominator; a triple `Stands` for a point if its quotients are the coordinates of the
point, and this is kept by doubling and by adding (`Stands.double`, `Stands.addAffine`), so that
what comes out is the multiple (`Realization.multiple_point`).
-/
import Mathlib.AlgebraicGeometry.EllipticCurve.Affine.Point
import EcdsaVectors.Proofs.Domain.Lawful
namespace EcdsaVectors.Curve

open WeierstrassCurve

/-- A Weierstrass curve over a field whose elements are written as numbers. -/
structure Realization (C : Curve) (K : Type) [AlgebraicField K] [Fintype K] where
  field : C.field.Realization K
  W : Affine K
  a₁ : C.a₁ = field.num W.a₁
  a₂ : C.a₂ = field.num W.a₂
  a₃ : W.a₃ = 0
  a₄ : C.a₄ = field.num W.a₄
  a₆ : C.a₆ = field.num W.a₆
  smooth : W.Δ ≠ 0

namespace Realization

variable {C : Curve} {K : Type} [AlgebraicField K] [Fintype K] (R : C.Realization K)

/-! ## The equation and the formulas -/

lemma hasPoint_iff (x y : K) :
    C.HasPoint (R.field.num x) (R.field.num y) ↔ R.W.Equation x y := by
  simp only [HasPoint, R.a₁, R.a₂, R.a₄, R.a₆, Field.Realization.num_square,
    Field.Realization.num_mul, Field.Realization.num_add, Field.Realization.num_inj]
  rw [Affine.equation_iff, R.a₃]
  constructor
  · intro h
    linear_combination h
  · intro h
    linear_combination h

lemma negY_num (x y : K) :
    C.negY (R.field.num x) (R.field.num y) = R.field.num (R.W.negY x y) := by
  simp only [Curve.negY, R.a₁, Field.Realization.num_mul, Field.Realization.num_add,
    Field.Realization.num_neg, Field.Realization.num_inj]
  rw [Affine.negY, R.a₃]
  ring

lemma third_num (x₁ x₂ y₁ l : K) :
    C.third (R.field.num x₁) (R.field.num x₂) (R.field.num y₁) (R.field.num l) =
      .affine (R.field.num (R.W.addX x₁ x₂ l)) (R.field.num (R.W.addY x₁ x₂ y₁ l)) := by
  simp only [Curve.third, R.a₁, R.a₂, Field.Realization.num_square, Field.Realization.num_mul,
    Field.Realization.num_add, Field.Realization.num_sub, negY_num]
  rfl

/-! ## Points -/

/-- A point, with its coordinates written as numbers. -/
def point : R.W.Point → Point
  | .zero => .infinity
  | .some x y _ => .affine (R.field.num x) (R.field.num y)

/-- The points of the curve are those of the Weierstrass curve. -/
lemma isPoint_iff {P : Point} : C.IsPoint P ↔ ∃ Q, R.point Q = P := by
  constructor
  · cases P with
    | infinity => exact fun _ => ⟨.zero, rfl⟩
    | affine x y =>
      rintro ⟨hx, hy, h⟩
      obtain ⟨a, rfl⟩ := R.field.mem.1 hx
      obtain ⟨b, rfl⟩ := R.field.mem.1 hy
      have hW := (R.hasPoint_iff a b).1 h
      exact ⟨.some a b ((Affine.equation_iff_nonsingular_of_Δ_ne_zero R.smooth).1 hW), rfl⟩
  · rintro ⟨Q, rfl⟩
    cases Q with
    | zero => exact trivial
    | some a b h =>
      exact ⟨R.field.mem_num a, R.field.mem_num b, (R.hasPoint_iff a b).2 h.1⟩

lemma neg_point (P : R.W.Point) : C.neg (R.point P) = R.point (-P) := by
  cases P with
  | zero => rfl
  | some x y h => exact congrArg _ (R.negY_num x y)

/-! ## Triples -/

/-- A triple whose quotients are the coordinates of a point. -/
inductive Stands : Projective → R.W.Point → Prop
  | zero (x y : K) : Stands ⟨R.field.num x, R.field.num y, R.field.num 0⟩ .zero
  | some {a b : K} (h : R.W.Nonsingular a b) (z : K) (hz : z ≠ 0) :
      Stands ⟨R.field.num (a * z ^ 2), R.field.num (b * z ^ 3), R.field.num z⟩ (.some a b h)

variable {R} in
lemma Stands.ofProjective {T : Projective} {P : R.W.Point} (h : R.Stands T P) :
    C.ofProjective T = R.point P := by
  cases h with
  | zero x y => exact if_pos R.field.zero
  | @some a b h z hz =>
    rw [Curve.ofProjective, if_neg (mt R.field.num_eq_zero.1 hz)]
    simp only [Field.Realization.num_inv _ hz, Field.Realization.num_square,
      Field.Realization.num_mul]
    rw [show a * z ^ 2 * z⁻¹ ^ 2 = a by field_simp,
      show b * z ^ 3 * (z⁻¹ * z⁻¹ ^ 2) = b by field_simp]
    rfl

/-- The triple of a sum, on a line of the right slope. -/
lemma thirdProjective_num (x₁ x₂ y₁ l z : K) :
    C.thirdProjective (R.field.num (x₁ * z ^ 2)) (R.field.num (x₂ * z ^ 2))
        (R.field.num (y₁ * z ^ 3)) (R.field.num (l * z)) (R.field.num z) =
      ⟨R.field.num (R.W.addX x₁ x₂ l * z ^ 2), R.field.num (R.W.addY x₁ x₂ y₁ l * z ^ 3),
        R.field.num z⟩ := by
  simp only [thirdProjective, R.a₁, R.a₂, Field.Realization.num_square,
    Field.Realization.num_mul, Field.Realization.num_add, Field.Realization.num_sub,
    Field.Realization.num_neg, Affine.addX, Affine.addY, Affine.negAddY, Affine.negY, R.a₃]
  congr 2 <;> ring

/-- A triple with no quotients stands for the point at infinity. -/
lemma thirdProjective_zero (u₁ u₂ v n : K) :
    R.Stands (C.thirdProjective (R.field.num u₁) (R.field.num u₂) (R.field.num v)
      (R.field.num n) (R.field.num 0)) .zero := by
  simp only [thirdProjective, R.a₁, R.a₂, Field.Realization.num_square,
    Field.Realization.num_mul, Field.Realization.num_add, Field.Realization.num_sub,
    Field.Realization.num_neg]
  exact .zero _ _

/-- Twice a triple. -/
lemma double_num {x y z d n : K} (hd : d = y + y + R.W.a₁ * (x * z))
    (hn : n = x * ((R.W.a₂ + R.W.a₂) * z ^ 2 + (x + (x + x))) + R.W.a₄ * (z ^ 2) ^ 2 -
      R.W.a₁ * (y * z)) :
    C.double ⟨R.field.num x, R.field.num y, R.field.num z⟩ =
      C.thirdProjective (R.field.num (x * d ^ 2)) (R.field.num (x * d ^ 2))
        (R.field.num (y * d ^ 3)) (R.field.num n) (R.field.num (z * d)) := by
  simp only [Curve.double, R.a₁, R.a₂, R.a₄, Field.Realization.num_square,
    Field.Realization.num_mul, Field.Realization.num_add, Field.Realization.num_sub, ← hd, ← hn]
  rw [pow_succ' d 2]

/-- The sum of a triple and another point. -/
lemma addAffine_num {x y u v z h r : K} (hz : z ≠ 0) (hh : h = x * z ^ 2 - u)
    (hr : r = y * (z * z ^ 2) - v) (hne : ¬(h = 0 ∧ r = 0)) :
    C.addAffine (R.field.num x) (R.field.num y) ⟨R.field.num u, R.field.num v, R.field.num z⟩ =
      C.thirdProjective (R.field.num (u * h ^ 2)) (R.field.num (x * z ^ 2 * h ^ 2))
        (R.field.num (v * h ^ 3)) (R.field.num r) (R.field.num (z * h)) := by
  have hz' : R.field.num z ≠ 0 := mt R.field.num_eq_zero.1 hz
  have hne' : ¬(R.field.num h = 0 ∧ R.field.num r = 0) := by
    rwa [R.field.num_eq_zero, R.field.num_eq_zero]
  simp only [Curve.addAffine, if_neg hz', Field.Realization.num_square,
    Field.Realization.num_mul, Field.Realization.num_sub, ← hh, ← hr, if_neg hne']
  rw [pow_succ' h 2]

/-! ## The group -/

variable [DecidableEq K]

/-- The tangent at a point, or the line through two points, has the slope of the formulas. -/
lemma add_affine {x₁ x₂ y₁ y₂ : K} (h : ¬(x₁ = x₂ ∧ y₁ = R.W.negY x₂ y₂))
    (h₁ : R.W.Equation x₁ y₁) (h₂ : R.W.Equation x₂ y₂) :
    C.add (.affine (R.field.num x₁) (R.field.num y₁)) (.affine (R.field.num x₂) (R.field.num y₂)) =
      .affine (R.field.num (R.W.addX x₁ x₂ (R.W.slope x₁ x₂ y₁ y₂)))
        (R.field.num (R.W.addY x₁ x₂ y₁ (R.W.slope x₁ x₂ y₁ y₂))) := by
  simp only [Curve.add, negY_num, Field.Realization.num_inj]
  by_cases hx : x₁ = x₂
  · -- the tangent
    have hy : y₁ ≠ R.W.negY x₂ y₂ := fun hy => h ⟨hx, hy⟩
    obtain rfl := Affine.Y_eq_of_Y_ne h₁ h₂ hx hy
    subst hx
    rw [if_pos rfl, if_neg hy, Affine.slope_of_Y_ne rfl hy, ← R.third_num]
    have hd : y₁ - R.W.negY x₁ y₁ ≠ 0 := sub_ne_zero.2 hy
    simp only [R.a₁, R.a₂, R.a₄, Field.Realization.num_mul, Field.Realization.num_add,
      Field.Realization.num_sub, Field.Realization.num_inv _ hd]
    congr 2
    ring
  · -- the line through two points
    rw [if_neg hx, Affine.slope_of_X_ne hx, ← R.third_num]
    have hd : x₂ - x₁ ≠ 0 := sub_ne_zero.2 (Ne.symm hx)
    have hd' : x₁ - x₂ ≠ 0 := sub_ne_zero.2 hx
    simp only [Field.Realization.num_mul, Field.Realization.num_sub,
      Field.Realization.num_inv _ hd]
    congr 2
    field_simp
    ring

/-- **The construction by chord and tangent is the group law.** -/
theorem add_point (P Q : R.W.Point) :
    C.add (R.point P) (R.point Q) = R.point (P + Q) := by
  cases P with
  | zero => exact (C.infinity_add _).trans (congrArg _ (zero_add Q).symm)
  | some x₁ y₁ h₁ =>
    cases Q with
    | zero => exact (C.add_infinity _).trans (congrArg _ (add_zero _).symm)
    | some x₂ y₂ h₂ =>
      by_cases h : x₁ = x₂ ∧ y₁ = R.W.negY x₂ y₂
      · -- the points are opposite
        obtain ⟨hx, hy⟩ := h
        rw [Affine.Point.add_of_Y_eq hx hy]
        simp only [point, Curve.add, negY_num, hx, hy, if_true]
      · rw [Affine.Point.add_some h]
        exact R.add_affine h h₁.1 h₂.1

/-! ## Multiples -/

namespace Stands

variable {R} {T : Projective} {P : R.W.Point}

lemma double (h : R.Stands T P) : R.Stands (C.double T) (P + P) := by
  cases h with
  | zero x y =>
    rw [R.double_num rfl rfl, zero_mul]
    exact R.thirdProjective_zero _ _ _ _
  | @some a b h z hz =>
    have hd : (2 * b + R.W.a₁ * a) * z ^ 3 =
        b * z ^ 3 + b * z ^ 3 + R.W.a₁ * (a * z ^ 2 * z) := by ring
    rw [R.double_num hd rfl]
    by_cases hy : b = R.W.negY a b
    · -- the tangent is upright
      have h0 : 2 * b + R.W.a₁ * a = 0 := by
        rw [Affine.negY, R.a₃] at hy
        linear_combination hy
      rw [Affine.Point.add_self_of_Y_eq hy, h0, zero_mul, mul_zero]
      exact R.thirdProjective_zero _ _ _ _
    · have h0 : 2 * b + R.W.a₁ * a ≠ 0 := by
        intro h0
        apply hy
        rw [Affine.negY, R.a₃]
        linear_combination h0
      -- the slope is that of the formulas, times the last coordinate of the double
      have hl : R.W.slope a a b b * (z * ((2 * b + R.W.a₁ * a) * z ^ 3)) =
          a * z ^ 2 * ((R.W.a₂ + R.W.a₂) * z ^ 2 + (a * z ^ 2 + (a * z ^ 2 + a * z ^ 2))) +
            R.W.a₄ * (z ^ 2) ^ 2 - R.W.a₁ * (b * z ^ 3 * z) := by
        have hneg : b - R.W.negY a b = 2 * b + R.W.a₁ * a := by
          rw [Affine.negY, R.a₃]
          ring
        rw [Affine.slope_of_Y_ne rfl hy, hneg, div_mul_eq_mul_div, div_eq_iff h0]
        ring
      have hz' : z * ((2 * b + R.W.a₁ * a) * z ^ 3) ≠ 0 :=
        mul_ne_zero hz (mul_ne_zero h0 (pow_ne_zero 3 hz))
      rw [Affine.Point.add_self_of_Y_ne hy, ← hl,
        show a * z ^ 2 * ((2 * b + R.W.a₁ * a) * z ^ 3) ^ 2 =
          a * (z * ((2 * b + R.W.a₁ * a) * z ^ 3)) ^ 2 by ring,
        show b * z ^ 3 * ((2 * b + R.W.a₁ * a) * z ^ 3) ^ 3 =
          b * (z * ((2 * b + R.W.a₁ * a) * z ^ 3)) ^ 3 by ring, R.thirdProjective_num]
      exact .some _ _ hz'

lemma addAffine (h : R.Stands T P) {x y : K} (hQ : R.W.Nonsingular x y) :
    R.Stands (C.addAffine (R.field.num x) (R.field.num y) T) (P + .some x y hQ) := by
  cases h with
  | zero u v =>
    -- the other point is written with the common denominator one
    have hone : C.addAffine (R.field.num x) (R.field.num y)
        ⟨R.field.num u, R.field.num v, R.field.num 0⟩ =
          ⟨R.field.num (x * 1 ^ 2), R.field.num (y * 1 ^ 3), R.field.num 1⟩ := by
      rw [Curve.addAffine, if_pos R.field.zero, one_pow, one_pow, mul_one, mul_one, R.field.one]
    rw [hone]
    exact (zero_add (Affine.Point.some x y hQ)).symm ▸ .some hQ 1 one_ne_zero
  | @some a b h z hz =>
    by_cases hxy : x = a ∧ y = b
    · -- the points are the same
      obtain ⟨rfl, rfl⟩ := hxy
      have hsame : C.addAffine (R.field.num x) (R.field.num y)
          ⟨R.field.num (x * z ^ 2), R.field.num (y * z ^ 3), R.field.num z⟩ =
            C.double ⟨R.field.num (x * z ^ 2), R.field.num (y * z ^ 3), R.field.num z⟩ := by
        rw [Curve.addAffine, if_neg (mt R.field.num_eq_zero.1 hz)]
        refine if_pos ?_
        simp only [Field.Realization.num_square, Field.Realization.num_mul,
          Field.Realization.num_sub, Field.Realization.num_eq_zero]
        constructor <;> ring
      rw [hsame]
      exact (Stands.some h z hz).double
    · have hh : (x - a) * z ^ 2 = x * z ^ 2 - a * z ^ 2 := by ring
      have hr : (y - b) * z ^ 3 = y * (z * z ^ 2) - b * z ^ 3 := by ring
      have hne : ¬((x - a) * z ^ 2 = 0 ∧ (y - b) * z ^ 3 = 0) := by
        simpa [hz, sub_eq_zero] using hxy
      rw [R.addAffine_num hz hh hr hne]
      by_cases hx : x = a
      · -- the points are opposite
        subst hx
        have hy : b = R.W.negY x y :=
          (Affine.Y_eq_of_X_eq h.1 hQ.1 rfl).resolve_left fun hy => hxy ⟨rfl, hy.symm⟩
        rw [Affine.Point.add_of_Y_eq rfl hy, sub_self, zero_mul, mul_zero]
        exact R.thirdProjective_zero _ _ _ _
      · have hl : R.W.slope a x b y * (z * ((x - a) * z ^ 2)) = (y - b) * z ^ 3 := by
          have hd : a - x ≠ 0 := sub_ne_zero.2 (Ne.symm hx)
          rw [Affine.slope_of_X_ne (Ne.symm hx), div_mul_eq_mul_div, div_eq_iff hd]
          ring
        have hz' : z * ((x - a) * z ^ 2) ≠ 0 :=
          mul_ne_zero hz (mul_ne_zero (sub_ne_zero.2 hx) (pow_ne_zero 2 hz))
        rw [Affine.Point.add_of_X_ne (Ne.symm hx), ← hl,
          show a * z ^ 2 * ((x - a) * z ^ 2) ^ 2 = a * (z * ((x - a) * z ^ 2)) ^ 2 by ring,
          show x * z ^ 2 * ((x - a) * z ^ 2) ^ 2 = x * (z * ((x - a) * z ^ 2)) ^ 2 by ring,
          show b * z ^ 3 * ((x - a) * z ^ 2) ^ 3 = b * (z * ((x - a) * z ^ 2)) ^ 3 by ring,
          R.thirdProjective_num]
        exact .some _ _ hz'

end Stands

/-- **The multiples that are made are those of the group.** -/
theorem multiple_point (k : Nat) (P : R.W.Point) :
    C.multiple k (R.point P) = R.point (k • P) := by
  cases P with
  | zero => exact congrArg R.point (nsmul_zero k).symm
  | some x y h =>
    -- the triple that is carried along stands for the multiple by the bits read so far
    refine Stands.ofProjective (ladder_induction
      (motive := fun T k => R.Stands T (k • Affine.Point.some x y h)) ?_ ?_ ?_ k)
    · rw [zero_nsmul, ← R.field.one, ← R.field.zero]
      exact .zero 1 1
    · intro T m hT
      rw [two_mul, add_nsmul]
      exact hT.double
    · intro T m hT
      rw [succ_nsmul]
      exact hT.addAffine h

end Realization

end EcdsaVectors.Curve
