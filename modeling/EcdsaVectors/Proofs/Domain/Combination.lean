/-
The point that a verifier compares, as a combination of two points.

The points that a number annihilates can be multiplied by the integers modulo this number
(`Curve.Realization.Torsion`).  If the base point and the public key are among them for the
order of a domain, then the point that is compared for a signature is a combination of both,
with quotients modulo the order as coefficients (`verifyingPoint_torsion`), and it can be told
how it changes with each of them (`combination_first`, `combination_second`,
`combination_key`).

Only its abscissa is compared, and this modulo the order.  Apart from points whose abscissas
happen to be the same modulo the order (`Domain.Collide`), an abscissa is that of one point and
of the opposite one (`hasAbscissa_torsion_iff`).
-/
import Mathlib.Algebra.Module.Torsion.Basic
import Mathlib.Tactic.Module
import EcdsaVectors.Proofs.Domain.Signature
namespace EcdsaVectors

open WeierstrassCurve

/-! ## Combinations -/

section Combination

variable {F M : Type} [AlgebraicField F] [AddCommGroup M] [Module F M] (G Q : M) (e r s : F)

/-- The combination of a base point and a public key that is compared for the signature
`(r, s)` of `e`. -/
def combination : M := (e * s⁻¹) • G + (r * s⁻¹) • Q

lemma combination_first (r' : F) :
    combination G Q e r' s = combination G Q e r s + ((r' - r) * s⁻¹) • Q := by
  rw [combination, combination]
  module

lemma combination_second {s : F} (hs : s ≠ 0) (s' : F) :
    combination G Q e r s' = (s * s'⁻¹) • combination G Q e r s := by
  have hcancel : ∀ a : F, s * s'⁻¹ * (a * s⁻¹) = a * s'⁻¹ := by
    intro a
    field_simp
  rw [combination, combination, smul_add, smul_smul, smul_smul, hcancel, hcancel]

lemma combination_key (Q' : M) :
    combination G Q' e r s = combination G Q e r s + (r * s⁻¹) • (Q' + -Q) := by
  rw [combination, combination]
  module

variable {G Q e r s}

lemma quotient_smul_eq_iff {P : M} (hP : P ≠ 0) {s' : F} (hs' : s' ≠ 0) (u : F) :
    (s * s'⁻¹) • P = u • P ↔ s = u * s' := by
  rw [← sub_eq_zero, ← sub_smul, smul_eq_zero_iff_left hP, sub_eq_zero, ← div_eq_mul_inv,
    div_eq_iff hs']

variable (h2 : (2 : F) ≠ 0) (hs : s ≠ 0)

include h2 hs

/-- The opposite key does not leave the combination as it is. -/
lemma combination_neg_ne (hQ : Q ≠ 0) (hr : r ≠ 0) :
    combination G (-Q) e r s ≠ combination G Q e r s := by
  intro h
  have hzero : (2 * (r * s⁻¹)) • Q = 0 := by
    rw [combination, combination] at h
    rw [← sub_eq_zero.2 h.symm]
    module
  have hne : 2 * (r * s⁻¹) ≠ 0 := mul_ne_zero h2 (mul_ne_zero hr (inv_ne_zero hs))
  exact hQ ((smul_eq_zero_iff_right hne).1 hzero)

/-- The opposite key makes the opposite combination just where the base point has no part in
it. -/
lemma combination_neg_eq_neg_iff (hG : G ≠ 0) :
    combination G (-Q) e r s = -combination G Q e r s ↔ e = 0 := by
  have hsum : combination G (-Q) e r s - -combination G Q e r s = (2 * (e * s⁻¹)) • G := by
    rw [combination, combination]
    module
  rw [← sub_eq_zero, hsum, smul_eq_zero_iff_left hG]
  simp [h2, hs]

end Combination

/-! ## Points that a number annihilates -/

namespace Curve.Realization

variable {C : Curve} {K : Type} [AlgebraicField K] [Fintype K] (R : C.Realization K)

lemma point_injective : Function.Injective R.point := by
  intro P Q h
  cases P with
  | zero =>
    cases Q with
    | zero => rfl
    | some x y hQ => cases h
  | some x y hP =>
    cases Q with
    | zero => cases h
    | some x' y' hQ =>
      obtain ⟨hx, hy⟩ := Point.affine.inj h
      obtain rfl := R.field.injective hx
      obtain rfl := R.field.injective hy
      rfl

/-- Points with the same abscissa are the same or opposite. -/
lemma eq_or_eq_neg {P P' : R.W.Point} {x y y' : Nat} (h : R.point P = .affine x y)
    (h' : R.point P' = .affine x y') : P' = P ∨ P' = -P := by
  cases P with
  | zero => cases h
  | some a b hab =>
    cases P' with
    | zero => cases h'
    | some a' b' hab' =>
      obtain ⟨rfl, rfl⟩ := Point.affine.inj h
      obtain ⟨hx, rfl⟩ := Point.affine.inj h'
      obtain rfl := R.field.injective hx
      rcases Affine.Y_eq_of_X_eq hab'.1 hab.1 rfl with rfl | rfl
      · exact .inl rfl
      · exact .inr rfl

variable [DecidableEq K]

/-- The points that a number annihilates. -/
abbrev Torsion (n : Nat) : AddSubgroup R.W.Point := AddSubgroup.torsionBy R.W.Point n

/-- These points can be multiplied by the integers modulo the number. -/
instance moduleTorsion (n : Nat) : Module (ZMod n) (R.Torsion n) := AddSubgroup.torsionBy.zmodModule

variable {R} {n : Nat}

lemma exists_torsion {P : Point} (hP : C.IsPoint P) (hn : C.multiple n P = .infinity) :
    ∃ T : R.Torsion n, R.point T = P := by
  obtain ⟨T, rfl⟩ := R.isPoint_iff.1 hP
  rw [R.multiple_point] at hn
  exact ⟨⟨T, AddSubgroup.torsionBy.nsmul_iff.2 (R.point_injective hn)⟩, rfl⟩

lemma multiple_val [NeZero n] (a : ZMod n) (P : R.Torsion n) :
    C.multiple a.val (R.point P) = R.point (a • P : R.Torsion n) := by
  rw [R.multiple_point, ← AddSubgroup.coe_nsmul, ← Nat.cast_smul_eq_nsmul (ZMod n),
    ZMod.natCast_zmod_val]

end Curve.Realization

/-! ## Abscissas -/

namespace Domain

variable (D : Domain)

/-- The multiple of a point by the quotient of two numbers modulo the order. -/
def fraction (a s : ZMod D.order) (P : Point) : Point :=
  D.curve.multiple (a * s⁻¹).val P

/-- The point is a finite one, and its abscissa is the given number modulo the order. -/
def HasAbscissa (P : Point) (r : Nat) : Prop :=
  ∃ x y, P = .affine x y ∧ D.abscissa x = r

/-- The points are finite, and their abscissas are different but the same modulo the order. -/
def Collide (P P' : Point) : Prop :=
  ∃ x y x' y', P = .affine x y ∧ P' = .affine x' y' ∧ x ≠ x' ∧ D.abscissa x = D.abscissa x'

variable {D} {K : Type} [AlgebraicField K] [Fintype K] [DecidableEq K]
  {R : D.curve.Realization K}

lemma fraction_torsion [NeZero D.order] (a s : ZMod D.order) (P : R.Torsion D.order) :
    D.fraction a s (R.point P) = R.point ((a * s⁻¹) • P : R.Torsion D.order) :=
  Curve.Realization.multiple_val _ P

/-- **Apart from collisions, an abscissa is that of one point and of the opposite one.** -/
theorem hasAbscissa_torsion_iff {P P' : R.Torsion D.order} {r : Nat}
    (h : D.HasAbscissa (R.point P) r) :
    D.HasAbscissa (R.point P') r ↔ P' = P ∨ P' = -P ∨ D.Collide (R.point P) (R.point P') := by
  obtain ⟨x, y, hP, rfl⟩ := h
  constructor
  · rintro ⟨x', y', hP', hr⟩
    by_cases hx : x' = x
    · subst hx
      rcases R.eq_or_eq_neg hP hP' with heq | heq
      · exact .inl (Subtype.ext heq)
      · exact .inr (.inl (Subtype.ext heq))
    · exact .inr (.inr ⟨x, y, x', y', hP, hP', Ne.symm hx, hr.symm⟩)
  · rintro (rfl | rfl | ⟨u, v, x', y', hu, hP', -, hr⟩)
    · exact ⟨x, y, hP, rfl⟩
    · rw [AddSubgroup.coe_neg, ← R.neg_point, hP]
      exact ⟨x, _, rfl, rfl⟩
    · obtain ⟨rfl, rfl⟩ := Point.affine.inj (hP.symm.trans hu)
      exact ⟨x', y', hP', hr.symm⟩

lemma ne_zero_of_hasAbscissa {P : R.Torsion D.order} {r : Nat} (h : D.HasAbscissa (R.point P) r) :
    P ≠ 0 := by
  rintro rfl
  obtain ⟨x, y, hxy, -⟩ := h
  cases hxy

/-! ## Verification -/

variable [Fact D.order.Prime] {G Q : R.Torsion D.order} (hG : R.point G = D.base)

include hG

/-- **The point that a verifier compares is a combination** of the base point and the public
key. -/
theorem verifyingPoint_torsion {s : Nat} (hs : 0 < s ∧ s < D.order) (e r : Nat) :
    D.verifyingPoint (R.point Q) e r s =
      R.point (combination G Q (e : ZMod D.order) r s : R.Torsion D.order) := by
  have hn : D.order.Prime := Fact.out
  rw [combination, AddSubgroup.coe_add, ← R.add_point, ← Curve.Realization.multiple_val,
    ← Curve.Realization.multiple_val, val_mul_inv hn hs, val_mul_inv hn hs, hG]
  rfl

lemma verify_torsion_iff {e r s : Nat} :
    D.verify (R.point Q) e ⟨r, s⟩ = .valid ↔ (0 < r ∧ r < D.order) ∧ (0 < s ∧ s < D.order) ∧
      D.HasAbscissa (R.point (combination G Q (e : ZMod D.order) r s : R.Torsion D.order)) r := by
  rw [verify_eq_valid_iff_exists]
  refine and_congr_right fun _ => and_congr_right fun hs => ?_
  rw [verifyingPoint_torsion hG hs]
  rfl

end Domain

end EcdsaVectors
