/-
Domains on elliptic curves.

What is known of signatures that hold for a public key rests on more than what makes a domain
lawful: the curve is one over a field, and the order annihilates the public keys too
(`Domain.Elliptic`).  A test of this is made for a public key where the cofactor is not one
(`Domain.publicPoint?`); otherwise the points must be counted.  For a domain over a prime field
what needs to be known for this can be computed (`Domain.Full`), and it is true of the standard
domains of up to 384 bits (`elliptic_standard`).
-/
import EcdsaVectors.Proofs.Curve.Cubic
import EcdsaVectors.Proofs.Curve.Order
import EcdsaVectors.Proofs.Domain.Combination
import EcdsaVectors.Proofs.Domain.Standard
namespace EcdsaVectors.Domain

/-- A domain on an elliptic curve, whose base point and public keys have an odd prime order. -/
inductive Elliptic (D : Domain) : Prop
  | mk {K : Type} [AlgebraicField K] [Fintype K] [DecidableEq K] (R : D.curve.Realization K)
    (prime : D.order.Prime) (odd : D.order ≠ 2) (base : D.curve.IsPoint D.base)
    (multiple_base : D.curve.multiple D.order D.base = .infinity)
    (multiple_key : ∀ {X Y : Nat} {Q : PublicKey}, D.publicKey? X Y = some Q →
      D.curve.multiple D.order Q.point = .infinity) : Elliptic D

lemma isPoint_of_publicKey? {D : Domain} {X Y : Nat} {Q : PublicKey}
    (h : D.publicKey? X Y = some Q) :
    Q.domain = D ∧ D.curve.field.ofNat? X = some Q.x ∧ D.curve.field.ofNat? Y = some Q.y ∧
      D.curve.IsPoint Q.point := by
  obtain ⟨⟨x, y⟩, hxy, rfl⟩ := Option.map_eq_some_iff.1 h
  obtain ⟨a, ha, hxy⟩ := Option.bind_eq_some_iff.1 hxy
  obtain ⟨b, hb, hxy⟩ := Option.bind_eq_some_iff.1 hxy
  obtain ⟨⟨hpoint, -⟩, hab⟩ := Option.ite_none_right_eq_some.1 hxy
  obtain ⟨rfl, rfl⟩ := Prod.mk.inj (Option.some.inj hab)
  refine ⟨rfl, ha, hb, ?_, ?_, hpoint⟩
  · rwa [Field.Mem, Field.toNat_of_ofNat? ha]
  · rwa [Field.Mem, Field.toNat_of_ofNat? hb]

/-! ## Prime fields -/

/-- What can be computed to see that the base point generates all points: its order is odd and
large enough, and the cubic of the curve has no root. -/
def Full (D : Domain) : Prop :=
  D.order ≠ 2 ∧ 2 * D.modulus + 1 < 3 * D.order ∧
    Remainder.Rootless D.modulus D.curve.a₄ D.curve.a₆

instance (D : Domain) : Decidable D.Full := inferInstanceAs (Decidable (_ ∧ _))

section OverPrime

variable {p a b x y n : Nat} [Fact p.Prime] (h : Sound p a b x y n)

include h

lemma two_ne_zero_of_sound : (2 : ZMod p) ≠ 0 := by
  intro h2
  apply h.2.1
  rw [← ZMod.natCast_eq_zero_iff]
  push_cast
  linear_combination 8 * (4 * (a : ZMod p) ^ 3 + 27 * (b : ZMod p) ^ 2) * h2

lemma card_overPrime (hn : n.Prime) (hfull : (overPrime p a b x y n).Full) :
    Nat.card (Curve.overPrime h).W.Point = n := by
  obtain ⟨⟨ha, hb, hx, hy⟩, -, hpoint, horder⟩ := id h
  obtain ⟨-, hsize, hrootless⟩ := hfull
  obtain ⟨G, hcoordinates⟩ := exists_hasCoordinates h hx hy hpoint
  have hG := (hasCoordinates_iff h G x y).1 hcoordinates
  have hroot : ∀ u : ZMod p, u ^ 3 + a * u + b ≠ 0 :=
    Remainder.Rootless.ne_zero (p := p) hrootless ha.le hb.le
  have hG0 : G ≠ 0 := by
    rintro rfl
    exact hcoordinates
  have hnG : n • G = 0 := by
    rw [← hG, Curve.Realization.multiple_point] at horder
    exact (Curve.overPrime h).point_injective horder
  refine card_point_eq rfl rfl (two_ne_zero_of_sound h) (fun u => ?_) hn hG0 hnG ?_
  · simpa [Curve.overPrime] using hroot u
  · rw [ZMod.card]
    exact hsize

/-- The order annihilates all points of the curve. -/
lemma order_nsmul_eq_zero (hn : n.Prime) (hfull : (overPrime p a b x y n).Full)
    (P : (Curve.overPrime h).W.Point) : n • P = 0 := by
  have hcard : addOrderOf P ∣ Nat.card (Curve.overPrime h).W.Point := addOrderOf_dvd_natCard P
  have hdvd : addOrderOf P ∣ n := hcard.trans (card_overPrime h hn hfull).dvd
  exact addOrderOf_dvd_iff_nsmul_eq_zero.1 hdvd

end OverPrime

/-- **A certified domain is one on an elliptic curve** if the base point generates all
points. -/
theorem Certified.elliptic {D : Domain} (hD : D.Certified) (hfull : D.Full) : D.Elliptic := by
  obtain @⟨p, a, b, x, y, n, hp, hn, h⟩ := hD
  have : Fact p.Prime := ⟨hp⟩
  have hannihilated : ∀ P, (overPrime p a b x y n).curve.IsPoint P →
      (overPrime p a b x y n).curve.multiple n P = .infinity := by
    intro P hP
    obtain ⟨P, rfl⟩ := (Curve.overPrime h).isPoint_iff.1 hP
    rw [Curve.Realization.multiple_point, order_nsmul_eq_zero h hn hfull]
    rfl
  obtain ⟨⟨-, -, hx, hy⟩, -, hpoint, horder⟩ := id h
  exact .mk (Curve.overPrime h) hn hfull.1
    ⟨Field.mem_prime.2 hx, Field.mem_prime.2 hy, hpoint⟩ horder
    fun hQ => hannihilated _ (isPoint_of_publicKey? hQ).2.2.2

/-- **The standard domains over prime fields of up to 384 bits are on elliptic curves.** -/
theorem elliptic_standard {C : CurveName} (hC : C ∈ [.p192, .p224, .p256, .p384]) :
    (standard C).Elliptic := by
  refine (certified_standard hC).elliptic ?_
  simp only [List.mem_cons, List.not_mem_nil, or_false] at hC
  rcases hC with rfl | rfl | rfl | rfl
  all_goals decide +kernel

end EcdsaVectors.Domain
