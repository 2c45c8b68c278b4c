/-
The number of points of a curve.

For each abscissa there are at most two points (`card_point_le`).  This bound is about twice
the number that there really is, but it is good enough if the base point has a large prime
order: then the number of points is this order or twice as much.  In the second case there is
a point of order two, and its abscissa is a root of the cubic of the curve.  So if the cubic has
no root, the order of the base point is the number of all points (`card_point_eq`).
-/
import Mathlib.AlgebraicGeometry.EllipticCurve.Affine.Point
import Mathlib.GroupTheory.Perm.Cycle.Type
import EcdsaVectors.Proofs.Field.Realization
namespace EcdsaVectors

open WeierstrassCurve

section

variable {K : Type} [AlgebraicField K] (W : Affine K)

/-- An ordinate for an abscissa, if there is any. -/
noncomputable def ordinate (x : K) : K := Classical.epsilon (W.Equation x)

open Classical in
/-- The abscissa of a point, and whether the point is the one with the ordinate that has been
chosen for it. -/
noncomputable def place : W.Point → Option (K × Bool)
  | .zero => none
  | .some x y _ => some (x, decide (y = ordinate W x))

/-- Of the two points for an abscissa one is chosen, and so its place tells a point. -/
lemma place_injective : Function.Injective (place W) := by
  intro P Q h
  cases P with
  | zero =>
    cases Q with
    | zero => rfl
    | some x' y' hQ => cases h
  | some x y hP =>
    cases Q with
    | zero => cases h
    | some x' y' hQ =>
      obtain ⟨rfl, hchosen⟩ := Prod.mk.inj (Option.some.inj h)
      have hordinate : W.Equation x (ordinate W x) := Classical.epsilon_spec ⟨y, hP.1⟩
      obtain rfl : y = y' := by
        by_cases hy : y = ordinate W x
        · have hy' : y' = ordinate W x := by simpa [hy] using hchosen
          exact hy.trans hy'.symm
        · have hy' : y' ≠ ordinate W x := by simpa [hy] using hchosen
          -- neither is the chosen one, so both are opposite to it
          have hneg := (Affine.Y_eq_of_X_eq hP.1 hordinate rfl).resolve_left hy
          have hneg' := (Affine.Y_eq_of_X_eq hQ.1 hordinate rfl).resolve_left hy'
          exact hneg.trans hneg'.symm
      rfl

variable [Fintype K]

instance finite_point : Finite W.Point := Finite.of_injective (place W) (place_injective W)

/-- For each abscissa there are at most two points. -/
lemma card_point_le : Nat.card W.Point ≤ 2 * Fintype.card K + 1 := by
  calc Nat.card W.Point ≤ Nat.card (Option (K × Bool)) :=
        Nat.card_le_card_of_injective (place W) (place_injective W)
    _ = 2 * Fintype.card K + 1 := by
        rw [Nat.card_eq_fintype_card, Fintype.card_option, Fintype.card_prod, Fintype.card_bool,
          Nat.mul_comm]

end

/-! ## The order -/

section

variable {K : Type} [AlgebraicField K] [DecidableEq K] {W : Affine K} (h₁ : W.a₁ = 0)
  (h₃ : W.a₃ = 0) (h2 : (2 : K) ≠ 0) (hroot : ∀ x, x ^ 3 + W.a₂ * x ^ 2 + W.a₄ * x + W.a₆ ≠ 0)

include h₁ h₃ h2 hroot

/-- The abscissa of a point of order two is a root of the cubic. -/
lemma add_self_ne_zero {P : W.Point} (hP : P ≠ 0) : P + P ≠ 0 := by
  cases P with
  | zero => exact absurd rfl hP
  | some x y h =>
    intro hadd
    have hneg := eq_neg_of_add_eq_zero_left hadd
    rw [Affine.Point.neg_some, Affine.Point.some.injEq, Affine.negY, h₁, h₃] at hneg
    have hdouble : 2 * y = 0 := by linear_combination hneg.2
    have hy : y = 0 := (mul_eq_zero.1 hdouble).resolve_left h2
    have hequation := (Affine.equation_iff ..).1 h.1
    rw [hy, h₁, h₃] at hequation
    exact hroot x (by linear_combination -hequation)

/-- **The base point generates all points** if its order is a prime that is large enough, and
the cubic has no root. -/
theorem card_point_eq [Fintype K] {G : W.Point} {n : Nat} (hn : n.Prime) (hG : G ≠ 0)
    (horder : n • G = 0) (hsize : 2 * Fintype.card K + 1 < 3 * n) : Nat.card W.Point = n := by
  have : Fact n.Prime := ⟨hn⟩
  obtain ⟨m, hm⟩ : n ∣ Nat.card W.Point := by
    rw [← addOrderOf_eq_prime horder hG]
    exact addOrderOf_dvd_natCard G
  -- there are some points, but not three times as many as the order
  have hm0 : m ≠ 0 := by
    rintro rfl
    exact Nat.card_pos.ne' hm
  have hm3 : m < 3 := by
    have hle := hm ▸ card_point_le W
    by_contra h
    have hmul : n * 3 ≤ n * m := Nat.mul_le_mul_left n (Nat.not_lt.1 h)
    omega
  have hm2 : m ≠ 2 := by
    rintro rfl
    obtain ⟨T, hT⟩ := exists_prime_addOrderOf_dvd_card' 2 (hm ▸ Nat.dvd_mul_left 2 n)
    have hT0 : T ≠ 0 := by
      rintro rfl
      cases addOrderOf_zero.symm.trans hT
    have hadd : T + T = 0 := by rw [← two_nsmul, ← hT, addOrderOf_nsmul_eq_zero]
    exact add_self_ne_zero h₁ h₃ h2 hroot hT0 hadd
  rw [hm, show m = 1 by omega, Nat.mul_one]

end

end EcdsaVectors
