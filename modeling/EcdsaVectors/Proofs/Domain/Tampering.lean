/-
Signatures that differ in one part from one that holds.

A signature holds, and `P` is the point that has been compared with it.  What does the verifier
find if one part is another?  On an elliptic curve the point can be told that is compared
then:

* `Elliptic.verify_first_iff`: for another first component, `P` and a multiple of the key;
* `Elliptic.verify_second_iff`: for another second component, a multiple of `P`;
* `Elliptic.verify_key_iff`: for another key, `P` and a multiple of the difference of the keys;
* `Elliptic.verify_opposite_iff`: for the opposite key, which is the only other one with this
  abscissa (`Elliptic.point_eq_neg`), the point differs from `P`, and is opposite to it only if
  the integer that is signed is zero modulo the order.

The second component can always be replaced by the opposite one, for the opposite point has the
same abscissa.
-/
import EcdsaVectors.Proofs.Domain.Elliptic
namespace EcdsaVectors.Domain

variable {D : Domain}

/-! ## Numbers modulo the order -/

lemma cast_eq_cast_iff {a b : Nat} (ha : a < D.order) (hb : b < D.order) :
    (a : ZMod D.order) = b ↔ a = b := by
  rw [ZMod.natCast_eq_natCast_iff', Nat.mod_eq_of_lt ha, Nat.mod_eq_of_lt hb]

lemma cast_eq_neg_iff {a b : Nat} (ha : 0 < a ∧ a < D.order) (hb : b < D.order) :
    (a : ZMod D.order) = -b ↔ b + a = D.order := by
  rw [eq_neg_iff_add_eq_zero, ← Nat.cast_add, ZMod.natCast_eq_zero_iff, Nat.add_comm]
  constructor
  · rintro ⟨m, hm⟩
    obtain rfl : m = 1 := by
      rcases m with - | - | m
      · omega
      · rfl
      · have hmul : D.order * 2 ≤ D.order * (m + 1 + 1) := Nat.mul_le_mul_left _ (by omega)
        omega
    rw [hm, Nat.mul_one]
  · intro h
    exact h.symm.dvd

/-! ## Keys in the group -/

namespace Elliptic

lemma prime (h : D.Elliptic) : D.order.Prime := by
  obtain ⟨-, hn, -⟩ := h
  exact hn

lemma two_ne_zero (h : D.Elliptic) : (2 : ZMod D.order) ≠ 0 := by
  obtain ⟨-, hn, hodd, -⟩ := h
  have hdvd : ¬ D.order ∣ 2 := mt (Nat.prime_dvd_prime_iff_eq hn Nat.prime_two).1 hodd
  exact_mod_cast mt (ZMod.natCast_eq_zero_iff 2 D.order).1 hdvd

/-- The base point and the public keys are points of a group that the order annihilates. -/
lemma exists_realization (h : D.Elliptic) :
    ∃ (K : Type) (_ : AlgebraicField K) (_ : Fintype K) (_ : DecidableEq K)
      (R : D.curve.Realization K), (∃ G : R.Torsion D.order, R.point G = D.base ∧ G ≠ 0) ∧
      ∀ {X Y : Nat} {Q : PublicKey}, D.publicKey? X Y = some Q →
        ∃ T : R.Torsion D.order, R.point T = Q.point ∧ T ≠ 0 := by
  obtain @⟨K, iK, iFinite, iDec, R, -, -, hbase, horder, hkeys⟩ := h
  -- the point at infinity is neither the base point nor a key
  have hfinite : ∀ {P : Point} {T : R.Torsion D.order}, R.point T = P → P ≠ .infinity → T ≠ 0 := by
    rintro P T rfl hP rfl
    exact hP rfl
  refine ⟨K, iK, iFinite, iDec, R, ?_, fun hQ => ?_⟩
  · obtain ⟨G, hG⟩ := Curve.Realization.exists_torsion (R := R) hbase horder
    exact ⟨G, hG, hfinite hG (by simp [base])⟩
  · obtain ⟨T, hT⟩ := Curve.Realization.exists_torsion (R := R)
      (isPoint_of_publicKey? hQ).2.2.2 (hkeys hQ)
    exact ⟨T, hT, hfinite hT (by simp [PublicKey.point])⟩

/-- A public key with the same first coordinate and another second one is the opposite
point. -/
theorem point_eq_neg (h : D.Elliptic) {X Y Y' : Nat} {Q Q' : PublicKey}
    (hQ : D.publicKey? X Y = some Q) (hQ' : D.publicKey? X Y' = some Q') (hne : Y' ≠ Y) :
    Q'.point = D.curve.neg Q.point := by
  obtain ⟨-, hX, hY, -⟩ := isPoint_of_publicKey? hQ
  obtain ⟨-, hX', hY', -⟩ := isPoint_of_publicKey? hQ'
  have hx : Q'.x = Q.x := Option.some.inj (hX'.symm.trans hX)
  have hy : Q'.y ≠ Q.y := by
    intro hy
    rw [← Field.toNat_of_ofNat? hY, ← Field.toNat_of_ofNat? hY', hy] at hne
    exact hne rfl
  obtain ⟨K, _, _, _, R, -, hkeys⟩ := h.exists_realization
  obtain ⟨T, hT, -⟩ := hkeys hQ
  obtain ⟨T', hT', -⟩ := hkeys hQ'
  have hT'x : R.point T' = .affine Q.x Q'.y := by rw [hT', PublicKey.point, hx]
  rcases R.eq_or_eq_neg hT hT'x with heq | heq
  · -- the points are not the same, for their ordinates differ
    rw [heq, hT] at hT'x
    exact absurd (Point.affine.inj hT'x).2.symm hy
  · rw [← hT', heq, ← R.neg_point, hT]

/-! ## Another part -/

section

variable (h : D.Elliptic) {X Y : Nat} {Q : PublicKey} (hQ : D.publicKey? X Y = some Q) {e : Nat}
  {S : Signature} (hv : D.verify Q.point e S = .valid) {P : Point}
  (hP : D.verifyingPoint Q.point e S.r S.s = P)

include h hQ hv hP

/-- A signature that holds, in the group: the point that is compared is a combination of the
base point and the key, and has the right abscissa. -/
lemma exists_combination [Fact D.order.Prime] :
    ∃ (K : Type) (_ : AlgebraicField K) (_ : Fintype K) (_ : DecidableEq K)
      (R : D.curve.Realization K) (G T : R.Torsion D.order),
      (R.point G = D.base ∧ G ≠ 0) ∧ (R.point T = Q.point ∧ T ≠ 0) ∧
        ((0 < S.r ∧ S.r < D.order) ∧ (0 < S.s ∧ S.s < D.order)) ∧
        R.point (combination G T (e : ZMod D.order) S.r S.s : R.Torsion D.order) = P ∧
        D.HasAbscissa P S.r ∧
        ∀ {X' Y' : Nat} {Q' : PublicKey}, D.publicKey? X' Y' = some Q' →
          ∃ T' : R.Torsion D.order, R.point T' = Q'.point := by
  obtain ⟨K, iK, iFinite, iDec, R, ⟨G, hG⟩, hkeys⟩ := h.exists_realization
  obtain ⟨T, hT⟩ := hkeys hQ
  rw [← hT.1] at hv hP
  obtain ⟨hr, hs, hx⟩ := (verify_torsion_iff hG.1).1 hv
  rw [verifyingPoint_torsion hG.1 hs] at hP
  exact ⟨K, iK, iFinite, iDec, R, G, T, hG, hT, ⟨hr, hs⟩, hP, hP ▸ hx,
    fun hQ' => (hkeys hQ').imp fun _ => And.left⟩

/-- **With another first component** the point is moved by a multiple of the public key, and
its abscissa must be the new component. -/
theorem verify_first_iff (r : Nat) :
    D.verify Q.point e ⟨r, S.s⟩ = .valid ↔ (0 < r ∧ r < D.order) ∧
      D.HasAbscissa (D.curve.add P (D.fraction (r - S.r : ZMod D.order) S.s Q.point)) r := by
  have : Fact D.order.Prime := ⟨h.prime⟩
  obtain ⟨K, _, _, _, R, G, T, ⟨hG, -⟩, ⟨hT, -⟩, ⟨-, hs⟩, rfl, -, -⟩ :=
    h.exists_combination hQ hv hP
  rw [← hT, verify_torsion_iff hG, and_iff_right hs,
    combination_first G T (e : ZMod D.order) S.r, fraction_torsion, R.add_point]
  rfl

/-- **With another second component** the point is multiplied by the quotient of the old one
and the new one.  Its abscissa is the same if the components are opposite; else it can be the
same modulo the order. -/
theorem verify_second_iff {s : Nat} (hne : s ≠ S.s) :
    D.verify Q.point e ⟨S.r, s⟩ = .valid ↔ s + S.s = D.order ∨ (0 < s ∧ s < D.order) ∧
      D.Collide P (D.fraction S.s s P) := by
  have : Fact D.order.Prime := ⟨h.prime⟩
  obtain ⟨K, _, _, _, R, G, T, ⟨hG, -⟩, ⟨hT, -⟩, ⟨hr, hs⟩, rfl, hx, -⟩ :=
    h.exists_combination hQ hv hP
  rw [← hT, verify_torsion_iff hG, and_iff_right hr,
    combination_second G T (e : ZMod D.order) S.r (cast_ne_zero hs.1 hs.2),
    hasAbscissa_torsion_iff hx, fraction_torsion]
  have hP0 := ne_zero_of_hasAbscissa hx
  generalize combination G T (e : ZMod D.order) S.r S.s = P at hP0
  by_cases hs' : 0 < s ∧ s < D.order
  · have hs0 := cast_ne_zero hs'.1 hs'.2
    -- the quotient is not one, and minus one just where the components are opposite
    have hsame : (S.s * (s : ZMod D.order)⁻¹ : ZMod D.order) • P ≠ P := by
      intro heq
      have hone := (quotient_smul_eq_iff hP0 hs0 1).1 (heq.trans (one_smul _ P).symm)
      rw [one_mul, cast_eq_cast_iff hs.2 hs'.2] at hone
      exact hne hone.symm
    have hneg : (S.s * (s : ZMod D.order)⁻¹ : ZMod D.order) • P = -P ↔ s + S.s = D.order := by
      rw [← neg_one_smul (ZMod D.order), quotient_smul_eq_iff hP0 hs0, neg_one_mul,
        cast_eq_neg_iff hs hs'.2]
    simp only [hsame, hneg, hs', false_or, true_and]
  · have hsum : s + S.s ≠ D.order := by omega
    simp only [hs', hsum, false_and, false_or]

/-- **With another key** the point is moved by a multiple of the difference of the keys. -/
theorem verify_key_iff {X' Y' : Nat} {Q' : PublicKey} (hQ' : D.publicKey? X' Y' = some Q') :
    D.verify Q'.point e S = .valid ↔ D.HasAbscissa (D.curve.add P
      (D.fraction S.r S.s (D.curve.add Q'.point (D.curve.neg Q.point)))) S.r := by
  have : Fact D.order.Prime := ⟨h.prime⟩
  obtain ⟨K, _, _, _, R, G, T, ⟨hG, -⟩, ⟨hT, -⟩, ⟨hr, hs⟩, rfl, -, hkeys⟩ :=
    h.exists_combination hQ hv hP
  obtain ⟨T', hT'⟩ := hkeys hQ'
  rw [← hT, ← hT', verify_torsion_iff hG, and_iff_right hr, and_iff_right hs,
    combination_key G T (e : ZMod D.order) S.r S.s T', R.neg_point, R.add_point,
    ← AddSubgroup.coe_neg, ← AddSubgroup.coe_add, fraction_torsion, R.add_point]
  rfl

/-- **With the opposite key** the point is another one.  It is the opposite one if the integer
that is signed is zero modulo the order; else its abscissa can be the same modulo the order. -/
theorem verify_opposite_iff {Q' : PublicKey} (hneg : Q'.point = D.curve.neg Q.point) :
    D.verify Q'.point e S = .valid ↔ D.order ∣ e ∨ D.Collide P (D.curve.add P
      (D.fraction S.r S.s (D.curve.add Q'.point (D.curve.neg Q.point)))) := by
  have : Fact D.order.Prime := ⟨h.prime⟩
  obtain ⟨K, _, _, _, R, G, T, ⟨hG, hG0⟩, ⟨hT, hT0⟩, ⟨hr, hs⟩, rfl, hx, -⟩ :=
    h.exists_combination hQ hv hP
  have hr0 := cast_ne_zero hr.1 hr.2
  have hs0 := cast_ne_zero hs.1 hs.2
  have hsame : combination G (-T) (e : ZMod D.order) S.r S.s ≠
      combination G T (e : ZMod D.order) S.r S.s :=
    combination_neg_ne h.two_ne_zero hs0 hT0 hr0
  have hopposite : combination G (-T) (e : ZMod D.order) S.r S.s =
      -combination G T (e : ZMod D.order) S.r S.s ↔ D.order ∣ e := by
    rw [combination_neg_eq_neg_iff h.two_ne_zero hs0 hG0, ZMod.natCast_eq_zero_iff]
  rw [hneg, ← hT, R.neg_point, R.add_point, ← AddSubgroup.coe_neg, ← AddSubgroup.coe_add,
    fraction_torsion, R.add_point, ← AddSubgroup.coe_add, ← combination_key,
    verify_torsion_iff hG, and_iff_right hr, and_iff_right hs, hasAbscissa_torsion_iff hx]
  simp only [hsame, hopposite, false_or]

end

end Elliptic

end EcdsaVectors.Domain
