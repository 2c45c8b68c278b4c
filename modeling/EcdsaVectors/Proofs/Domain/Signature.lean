/-
Public keys and signatures in the group of a Weierstrass curve.

The verifier of a domain computes with numbers and triples.  What it finds is told here without
them: a public key is a solution of the equation of the curve, and a signature holds if a
certain point of the group of the curve has a certain abscissa.

* `Domain.Certified.publicKey?_eq`: the public keys of a domain are the solutions (`IsKey`);
* `Domain.Certified.verify_eq_valid_iff`: the verifier finds a signature valid if it holds in
  the group (`Holds`).
-/
import EcdsaVectors.Proofs.Domain.Prime
namespace EcdsaVectors

open WeierstrassCurve

namespace Domain

/-! ## The curve of a domain -/

variable (D : Domain)

/-- The size of the field, which is the modulus if this is a prime field. -/
abbrev modulus : Nat := D.curve.field.card

/-- Two numbers below the modulus that solve the equation `y² = x³ + ax + b`. -/
def IsKey (X Y : Nat) : Prop :=
  X < D.modulus ∧ Y < D.modulus ∧ Y ^ 2 ≡ X ^ 3 + D.curve.a₄ * X + D.curve.a₆ [MOD D.modulus]

instance (X Y : Nat) : Decidable (D.IsKey X Y) :=
  inferInstanceAs (Decidable (_ ∧ _ ∧ _))

/-- The curve `y² = x³ + ax + b` over the integers modulo the modulus. -/
def weierstrass : Affine (ZMod D.modulus) :=
  ⟨0, 0, 0, D.curve.a₄, D.curve.a₆⟩

/-- The point is a finite one with the coordinates `X` and `Y`. -/
def HasCoordinates {p : Nat} {W : Affine (ZMod p)} : W.Point → Nat → Nat → Prop
  | .zero, _, _ => False
  | .some x y _, X, Y => x.val = X ∧ y.val = Y

/-- The signature `(R, S)` of the integer `e` holds for the public key `(X, Y)`: in the group of
the curve, with the base point `G` and the public key `Q`, the sum of the multiples of `G` by
`e / S` and of `Q` by `R / S` is finite, and its abscissa is `R` modulo the order. -/
def Holds (X Y e R S : Nat) : Prop :=
  (0 < R ∧ R < D.order) ∧ (0 < S ∧ S < D.order) ∧
    ∃ hp : D.modulus.Prime,
      have : Fact D.modulus.Prime := ⟨hp⟩
      ∃ G Q : D.weierstrass.Point, HasCoordinates G D.baseX D.baseY ∧ HasCoordinates Q X Y ∧
        ∃ x y, x % D.order = R ∧
          HasCoordinates ((e * (S : ZMod D.order)⁻¹ : ZMod D.order).val • G +
            (R * (S : ZMod D.order)⁻¹ : ZMod D.order).val • Q) x y

/-! ## Public keys -/

section OverPrime

variable {p a b x y n : Nat}

lemma publicPoint?_overPrime (X Y : Nat) :
    (overPrime p a b x y n).publicPoint? X Y =
      if X < p ∧ Y < p ∧ (overPrime p a b x y n).curve.HasPoint X Y then some (X, Y)
      else none := by
  by_cases hX : X < p
  · by_cases hY : Y < p
    · simp [publicPoint?, overPrime, Field.ofNat?, hX, hY]
    · simp [publicPoint?, overPrime, Field.ofNat?, hX, hY]
  · simp [publicPoint?, overPrime, Field.ofNat?, hX]

variable [Fact p.Prime] (h : Sound p a b x y n)

include h in
/-- The equation of the curve, as a congruence. -/
lemma hasPoint_overPrime {X Y : Nat} (hX : X < p) (hY : Y < p) :
    (overPrime p a b x y n).curve.HasPoint X Y ↔ Y ^ 2 ≡ X ^ 3 + a * X + b [MOD p] := by
  have hpoint := (Curve.overPrime h).hasPoint_iff X Y
  have hnumX : (Curve.overPrime h).field.num X = X := ZMod.val_cast_of_lt hX
  have hnumY : (Curve.overPrime h).field.num Y = Y := ZMod.val_cast_of_lt hY
  rw [hnumX, hnumY] at hpoint
  rw [hpoint, Affine.equation_iff, ← ZMod.natCast_eq_natCast_iff]
  push_cast
  simp [Curve.overPrime]

end OverPrime

/-- **The public keys of a domain are the solutions of its equation.** -/
theorem Certified.publicKey?_eq {D : Domain} (hD : D.Certified) (X Y : Nat) :
    D.publicKey? X Y = if D.IsKey X Y then some ⟨D, X, Y⟩ else none := by
  obtain @⟨p, a, b, x, y, n, hp, -, h⟩ := hD
  have : Fact p.Prime := ⟨hp⟩
  have hvalid : (X < p ∧ Y < p ∧ (overPrime p a b x y n).curve.HasPoint X Y) ↔
      (overPrime p a b x y n).IsKey X Y := by
    refine and_congr_right fun hX => and_congr_right fun hY => ?_
    exact hasPoint_overPrime h hX hY
  rw [publicKey?, publicPoint?_overPrime, if_congr hvalid rfl rfl]
  split
  · rfl
  · rfl

/-! ## Signatures -/

lemma verify_eq_valid_iff_exists {D : Domain} {Q : Point} {e R S : Nat} :
    D.verify Q e ⟨R, S⟩ = .valid ↔ (0 < R ∧ R < D.order) ∧ (0 < S ∧ S < D.order) ∧
      ∃ x y, D.verifyingPoint Q e R S = .affine x y ∧ D.abscissa x = R := by
  rw [← and_assoc, and_assoc (a := 0 < R), verify]
  by_cases hrange : 0 < R ∧ R < D.order ∧ 0 < S ∧ S < D.order
  · rw [if_pos hrange]
    cases hP : D.verifyingPoint Q e R S with
    | infinity => simp
    | affine x y =>
      by_cases hx : D.abscissa x = R
      · simp [hx, hrange]
      · simp [hx]
  · rw [if_neg hrange]
    exact iff_of_false (by simp) fun h => hrange h.1

lemma val_mul_inv {D : Domain} (hD : D.order.Prime) {S : Nat} (hS : 0 < S ∧ S < D.order)
    (e : Nat) : (e * (S : ZMod D.order)⁻¹ : ZMod D.order).val =
      e * D.scalarInverse S % D.order := by
  rw [← scalarInverse_cast hD hS.1 hS.2, ← Nat.cast_mul, ZMod.val_natCast]

section OverPrime

variable {p a b x y n : Nat} [Fact p.Prime] (h : Sound p a b x y n)

lemma hasCoordinates_iff (P : (Curve.overPrime h).W.Point) (X Y : Nat) :
    HasCoordinates P X Y ↔ (Curve.overPrime h).point P = .affine X Y := by
  cases P with
  | zero => exact iff_of_false id nofun
  | some u v hP => exact (Point.affine.injEq _ _ _ _).symm.to_iff

lemma exists_hasCoordinates {X Y : Nat} (hX : X < p) (hY : Y < p)
    (hXY : (overPrime p a b x y n).curve.HasPoint X Y) :
    ∃ P : (Curve.overPrime h).W.Point, HasCoordinates P X Y := by
  obtain ⟨P, hP⟩ := ((Curve.overPrime h).isPoint_iff (P := .affine X Y)).1
    ⟨Field.mem_prime.2 hX, Field.mem_prime.2 hY, hXY⟩
  exact ⟨P, (hasCoordinates_iff h P X Y).2 hP⟩

/-- The point that a verifier compares is a sum of multiples in the group. -/
lemma verifyingPoint_overPrime (hn : n.Prime) {S : Nat} (hS : 0 < S ∧ S < n) (e R : Nat)
    {G Q : (Curve.overPrime h).W.Point} (hG : HasCoordinates G x y) {X Y : Nat}
    (hQ : HasCoordinates Q X Y) :
    (overPrime p a b x y n).verifyingPoint (.affine X Y) e R S =
      (Curve.overPrime h).point ((e * (S : ZMod n)⁻¹ : ZMod n).val • G +
        (R * (S : ZMod n)⁻¹ : ZMod n).val • Q) := by
  have hscalar : ∀ k : Nat, (k * (S : ZMod n)⁻¹ : ZMod n).val = _ :=
    val_mul_inv (D := overPrime p a b x y n) hn hS
  have hbase : (overPrime p a b x y n).base = (Curve.overPrime h).point G :=
    ((hasCoordinates_iff h G x y).1 hG).symm
  rw [hscalar, hscalar, ← Curve.Realization.add_point, ← Curve.Realization.multiple_point,
    ← Curve.Realization.multiple_point, ← hbase, (hasCoordinates_iff h Q X Y).1 hQ]
  rfl

end OverPrime

/-- **A signature is valid if it holds in the group of the curve.** -/
theorem Certified.verify_eq_valid_iff {D : Domain} (hD : D.Certified) {X Y : Nat}
    (hkey : D.IsKey X Y) (e R S : Nat) :
    D.verify (.affine X Y) e ⟨R, S⟩ = .valid ↔ D.Holds X Y e R S := by
  obtain @⟨p, a, b, x, y, n, hp, hn, h⟩ := hD
  have : Fact p.Prime := ⟨hp⟩
  rw [verify_eq_valid_iff_exists, Holds]
  refine and_congr_right fun _ => and_congr_right fun hS => ?_
  constructor
  · rintro ⟨u, v, huv, hu⟩
    obtain ⟨⟨-, -, hx, hy⟩, -, hbase, -⟩ := id h
    obtain ⟨hX, hY, hXY⟩ := hkey
    have hpoint := (hasPoint_overPrime h hX hY).2 hXY
    obtain ⟨G, hG⟩ := exists_hasCoordinates h hx hy hbase
    obtain ⟨Q, hQ⟩ := exists_hasCoordinates h hX hY hpoint
    refine ⟨hp, G, Q, hG, hQ, u, v, hu, (hasCoordinates_iff h _ u v).2 ?_⟩
    exact (verifyingPoint_overPrime h hn hS e R hG hQ).symm.trans huv
  · rintro ⟨hp', G, Q, hG, hQ, u, v, hu, huv⟩
    refine ⟨u, v, ?_, hu⟩
    exact (verifyingPoint_overPrime h hn hS e R hG hQ).trans ((hasCoordinates_iff h _ u v).1 huv)

end Domain

end EcdsaVectors
