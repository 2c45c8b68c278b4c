/-
Signatures with two first components.

Let `P` and `P'` be points whose abscissas differ.  As there is but one group of the order of
the base point, some key and second component lead to `P` for the one abscissa and to `P'` for
the other (`exists_combination_eq`), whatever has been signed.  So the key has two signatures
with one second component (`Certified.exists_twin`), though nobody need be able to find it.
-/
import Mathlib.GroupTheory.SpecificGroups.Cyclic
import EcdsaVectors.Proofs.Domain.Tampering
namespace EcdsaVectors

/-! ## Combinations -/

section Combination

variable {F M : Type} [AlgebraicField F] [AddCommGroup M] [Module F M]

/-- If all points are multiples of each other, then some key and second component lead to two
points for two first components. -/
lemma exists_combination_eq (hspan : ∀ {N : M}, N ≠ 0 → ∀ T, ∃ k : F, k • N = T) {G P P' : M}
    {e r r' : F} (hG : G ≠ 0) (he : e ≠ 0) (hr : r ≠ r') (hP : P ≠ P')
    (hN : r' • P ≠ r • P') :
    ∃ Q s, Q ≠ 0 ∧ s ≠ 0 ∧ combination G Q e r s = P ∧ combination G Q e r' s = P' := by
  obtain ⟨k, hk⟩ := hspan (sub_ne_zero.2 hN) (e • G)
  have hk0 : k ≠ 0 := by
    rintro rfl
    rw [zero_smul] at hk
    exact smul_ne_zero he hG hk.symm
  have hd : r' - r ≠ 0 := sub_ne_zero.2 (Ne.symm hr)
  -- what is left of both combinations is one multiple of the points
  have hone : (k * (r' - r))⁻¹ * k * (r' - r) = 1 := by
    field_simp
  have hbase : (e * (k * (r' - r))⁻¹) • G = ((k * (r' - r))⁻¹ * k) • (r' • P - r • P') := by
    rw [mul_comm, mul_smul, ← hk, mul_smul]
  refine ⟨k • (P' - P), k * (r' - r), smul_ne_zero hk0 (sub_ne_zero.2 (Ne.symm hP)),
    mul_ne_zero hk0 hd, ?_, ?_⟩
  · calc combination G (k • (P' - P)) e r (k * (r' - r))
        = ((k * (r' - r))⁻¹ * k * (r' - r)) • P := by
          rw [combination, hbase]
          module
      _ = P := by rw [hone, one_smul]
  · calc combination G (k • (P' - P)) e r' (k * (r' - r))
        = ((k * (r' - r))⁻¹ * k * (r' - r)) • P' := by
          rw [combination, hbase]
          module
      _ = P' := by rw [hone, one_smul]

end Combination

namespace Domain

variable {D : Domain}

/-- A finite point that the order annihilates is a public key. -/
lemma publicKey?_of_isPoint {x y : Nat} (hpoint : D.curve.IsPoint (.affine x y))
    (horder : D.curve.multiple D.order (.affine x y) = .infinity) :
    D.publicKey? (D.curve.field.toNat x) (D.curve.field.toNat y) = some ⟨D, x, y⟩ := by
  obtain ⟨hx, hy, hcurve⟩ := hpoint
  have hvalid : D.publicPoint? (D.curve.field.toNat x) (D.curve.field.toNat y) = some (x, y) := by
    refine Option.bind_eq_some_iff.2 ⟨_, hx, Option.bind_eq_some_iff.2 ⟨_, hy, ?_⟩⟩
    exact if_pos ⟨hcurve, .inr horder⟩
  rw [publicKey?, hvalid]
  rfl

/-- A finite point that the order annihilates is a public key. -/
lemma exists_publicKey? {K : Type} [AlgebraicField K] [Fintype K] [DecidableEq K]
    (R : D.curve.Realization K) {T : R.Torsion D.order} (hT : T ≠ 0) :
    ∃ X Y Q, D.publicKey? X Y = some Q ∧ Q.point = R.point T := by
  obtain ⟨P, hP⟩ := T
  have horder : D.curve.multiple D.order (R.point P) = .infinity := by
    rw [R.multiple_point, AddSubgroup.torsionBy.nsmul_iff.1 hP]
    rfl
  have hpoint : D.curve.IsPoint (R.point P) := R.isPoint_iff.2 ⟨P, rfl⟩
  match hP' : R.point P with
  | .infinity => exact absurd (Subtype.ext (R.point_injective hP')) hT
  | .affine x y =>
    rw [hP'] at horder hpoint
    exact ⟨_, _, _, publicKey?_of_isPoint hpoint horder, rfl⟩

/-- In a group of prime order each point is a multiple of each other one that is finite. -/
lemma Certified.exists_smul_eq (hD : D.Certified) (hfull : D.Full) :
    ∃ (K : Type) (_ : AlgebraicField K) (_ : Fintype K) (_ : DecidableEq K)
      (R : D.curve.Realization K),
      (∀ {P : Point}, D.curve.IsPoint P → ∃ T : R.Torsion D.order, R.point T = P) ∧
      ∀ {N : R.Torsion D.order}, N ≠ 0 → ∀ T, ∃ k : ZMod D.order, k • N = T := by
  obtain @⟨p, a, b, x, y, n, hp, hn, h⟩ := hD
  have : Fact p.Prime := ⟨hp⟩
  have : Fact n.Prime := ⟨hn⟩
  refine ⟨ZMod p, inferInstance, inferInstance, inferInstance, Curve.overPrime h, fun hP => ?_,
    fun {N} hN T => ?_⟩
  · obtain ⟨T, rfl⟩ := (Curve.overPrime h).isPoint_iff.1 hP
    exact ⟨⟨T, AddSubgroup.torsionBy.nsmul_iff.2 (order_nsmul_eq_zero h hn hfull T)⟩, rfl⟩
  · have hN' : (N : (Curve.overPrime h).W.Point) ≠ 0 := by simpa using hN
    have hT : (T : (Curve.overPrime h).W.Point) ∈
        AddSubgroup.zmultiples (N : (Curve.overPrime h).W.Point) :=
      mem_zmultiples_of_prime_card (card_overPrime h hn hfull) hN'
    obtain ⟨k, hk⟩ := AddSubgroup.mem_zmultiples_iff.1 hT
    refine ⟨k, Subtype.ext ?_⟩
    rw [Int.cast_smul_eq_zsmul]
    exact hk

/-- **Two points lead to a key with two signatures** of an integer that is not zero modulo the
order, with the abscissas of the points as first components and one second component. -/
theorem Certified.exists_twin (hD : D.Certified) (hfull : D.Full) {P P' : Point} {r r' : Nat}
    (hP : D.curve.IsPoint P) (hP' : D.curve.IsPoint P') (hr : D.HasAbscissa P r)
    (hr' : D.HasAbscissa P' r') (hpos : 0 < r) (hpos' : 0 < r') (hne : r ≠ r')
    (hN : D.curve.multiple r' P ≠ D.curve.multiple r P') {e : Nat} (he : ¬ D.order ∣ e) :
    ∃ X Y Q s, D.publicKey? X Y = some Q ∧ D.verify Q.point e ⟨r, s⟩ = .valid ∧
      D.verify Q.point e ⟨r', s⟩ = .valid := by
  have hprime : D.order.Prime := hD.lawful.prime
  have : Fact D.order.Prime := ⟨hprime⟩
  obtain ⟨K, _, _, _, R, hpoint, hspan⟩ := hD.exists_smul_eq hfull
  obtain ⟨G, hG⟩ := hpoint hD.lawful.base
  obtain ⟨T, rfl⟩ := hpoint hP
  obtain ⟨T', rfl⟩ := hpoint hP'
  have hG0 : G ≠ 0 := by
    rintro rfl
    cases hG
  have hlt : ∀ {P : Point} {r : Nat}, D.HasAbscissa P r → r < D.order := by
    rintro P r ⟨x, y, -, rfl⟩
    exact Nat.mod_lt _ hprime.pos
  have hrr' : (r : ZMod D.order) ≠ r' := by
    rwa [Ne, cast_eq_cast_iff (hlt hr) (hlt hr')]
  have hTT' : T ≠ T' := by
    rintro rfl
    obtain ⟨x, y, hxy, rfl⟩ := hr
    obtain ⟨x', y', hxy', rfl⟩ := hr'
    obtain ⟨rfl, -⟩ := Point.affine.inj (hxy.symm.trans hxy')
    exact hne rfl
  have hNT : (r' : ZMod D.order) • T ≠ (r : ZMod D.order) • T' := by
    intro h
    apply hN
    rw [R.multiple_point, R.multiple_point, ← AddSubgroup.coe_nsmul, ← AddSubgroup.coe_nsmul,
      ← Nat.cast_smul_eq_nsmul (ZMod D.order), h, Nat.cast_smul_eq_nsmul]
  have he0 : (e : ZMod D.order) ≠ 0 := mt (ZMod.natCast_eq_zero_iff e D.order).1 he
  obtain ⟨Q, s, hQ, hs, hcombination, hcombination'⟩ :=
    exists_combination_eq hspan hG0 he0 hrr' hTT' hNT
  have hs' : 0 < s.val ∧ s.val < D.order := ⟨(ZMod.val_pos).2 hs, s.val_lt⟩
  rw [← ZMod.natCast_zmod_val s] at hcombination hcombination'
  obtain ⟨X, Y, Q', hQ', hpoint'⟩ := exists_publicKey? R hQ
  refine ⟨X, Y, Q', s.val, hQ', ?_, ?_⟩
  · rw [hpoint', verify_torsion_iff hG, hcombination]
    exact ⟨⟨hpos, hlt hr⟩, hs', hr⟩
  · rw [hpoint', verify_torsion_iff hG, hcombination']
    exact ⟨⟨hpos', hlt hr'⟩, hs', hr'⟩

end Domain

end EcdsaVectors
