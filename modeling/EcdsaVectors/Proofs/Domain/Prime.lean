/-
Lawful domains over prime fields.

The points of a domain over a prime field form a group as soon as the curve is smooth
(`Domain.Certified.lawful`).  What remains to be known of the numbers that make up the domain
can be computed: that the order annihilates the base point, and that the modulus and the order
are prime, for which there are certificates.
-/
import EcdsaVectors.Proofs.Curve.Weierstrass
import EcdsaVectors.Proofs.Primality
namespace EcdsaVectors

/-- **A domain on a curve whose points form a group is lawful** if the order is prime and
annihilates the base point. -/
theorem Curve.Realization.lawful {D : Domain} {K : Type} [AlgebraicField K] [Fintype K]
    [DecidableEq K] (R : D.curve.Realization K) (hprime : D.order.Prime)
    (hbase : D.curve.IsPoint D.base) (horder : D.curve.multiple D.order D.base = .infinity) :
    D.Lawful where
  prime := hprime
  base := hbase
  add := by
    intro P Q hP hQ
    obtain ⟨P, rfl⟩ := R.isPoint_iff.1 hP
    obtain ⟨Q, rfl⟩ := R.isPoint_iff.1 hQ
    exact R.isPoint_iff.2 ⟨P + Q, (R.add_point P Q).symm⟩
  neg := by
    intro P hP
    obtain ⟨P, rfl⟩ := R.isPoint_iff.1 hP
    exact R.isPoint_iff.2 ⟨-P, (R.neg_point P).symm⟩
  add_assoc := by
    intro P Q S hP hQ hS
    obtain ⟨P, rfl⟩ := R.isPoint_iff.1 hP
    obtain ⟨Q, rfl⟩ := R.isPoint_iff.1 hQ
    obtain ⟨S, rfl⟩ := R.isPoint_iff.1 hS
    rw [R.add_point, R.add_point, R.add_point, R.add_point, add_assoc]
  add_neg := by
    intro P hP
    obtain ⟨P, rfl⟩ := R.isPoint_iff.1 hP
    rw [R.neg_point, R.add_point, add_neg_cancel]
    rfl
  multiple_zero := by
    intro P hP
    obtain ⟨P, rfl⟩ := R.isPoint_iff.1 hP
    rw [R.multiple_point, zero_nsmul]
    rfl
  multiple_succ := by
    intro P hP k
    obtain ⟨P, rfl⟩ := R.isPoint_iff.1 hP
    rw [R.multiple_point, R.multiple_point, R.add_point, succ_nsmul]
  multiple_order := horder

/-- What can be computed of the numbers that make up a domain over a prime field. -/
def Domain.Sound (p a b x y n : Nat) : Prop :=
  (a < p ∧ b < p ∧ x < p ∧ y < p) ∧ ¬p ∣ 16 * (4 * a ^ 3 + 27 * b ^ 2) ∧
    (Domain.overPrime p a b x y n).curve.HasPoint x y ∧
    (Domain.overPrime p a b x y n).curve.multiple n (.affine x y) = .infinity

instance (p a b x y n : Nat) : Decidable (Domain.Sound p a b x y n) :=
  inferInstanceAs (Decidable (_ ∧ _))

/-- A smooth curve over a prime field, as a Weierstrass curve. -/
def Curve.overPrime {p a b x y n : Nat} [Fact p.Prime] (h : Domain.Sound p a b x y n) :
    (Domain.overPrime p a b x y n).curve.Realization (ZMod p) where
  field := Field.primeRealization p
  W := ⟨0, 0, 0, a, b⟩
  a₁ := ZMod.val_zero.symm
  a₂ := ZMod.val_zero.symm
  a₃ := rfl
  a₄ := (ZMod.val_cast_of_lt h.1.1).symm
  a₆ := (ZMod.val_cast_of_lt h.1.2.1).symm
  smooth := by
    -- the discriminant is that of the short equation, up to the sign
    intro hΔ
    apply h.2.1
    rw [← ZMod.natCast_eq_zero_iff]
    push_cast
    simp only [WeierstrassCurve.Δ, WeierstrassCurve.b₂, WeierstrassCurve.b₄,
      WeierstrassCurve.b₆, WeierstrassCurve.b₈] at hΔ
    linear_combination -hΔ

/-- A domain over a prime field, with numbers that are sound and prime. -/
inductive Domain.Certified : Domain → Prop
  | mk {p a b x y n : Nat} (hp : p.Prime) (hn : n.Prime) (h : Domain.Sound p a b x y n) :
    Certified (.overPrime p a b x y n)

/-- **A domain over a prime field is lawful** if its numbers are sound and prime. -/
theorem Domain.Certified.lawful {D : Domain} (h : D.Certified) : D.Lawful := by
  obtain ⟨hp, hn, h⟩ := h
  have : Fact (Nat.Prime _) := ⟨hp⟩
  obtain ⟨⟨-, -, hx, hy⟩, -, hpoint, horder⟩ := id h
  exact (Curve.overPrime h).lawful hn
    ⟨Field.mem_prime.2 hx, Field.mem_prime.2 hy, hpoint⟩ horder

end EcdsaVectors
