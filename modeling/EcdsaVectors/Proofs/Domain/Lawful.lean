/-
Domains whose points form a group.

The textbook on signatures takes it for granted that the points of the curve form a group,
that multiples are sums of equal points, and that the base point has prime order.  A domain
of which this is true is `Lawful`, and on a lawful domain

* a public key is valid if it is made from a private scalar
  (`Lawful.publicKey?_coordinates`);
* a signature that is made with a key pair holds for its public key
  (`Lawful.finding_eq_valid`).
-/
import Mathlib.Tactic.FieldSimp
import Mathlib.Tactic.LinearCombination
import EcdsaVectors.Proofs.Backend.Faithful
import EcdsaVectors.Proofs.Field.Realization
namespace EcdsaVectors

/-- Whether a point is one of the curve: its coordinates are elements of the field, and they
satisfy the equation. -/
def Curve.IsPoint (C : Curve) : Point → Prop
  | .infinity => True
  | .affine x y => C.field.Mem x ∧ C.field.Mem y ∧ C.HasPoint x y

/-- A domain whose points form a group in which the base point has prime order. -/
structure Domain.Lawful (D : Domain) : Prop where
  prime : D.order.Prime
  base : D.curve.IsPoint D.base
  add {P Q : Point} (hP : D.curve.IsPoint P) (hQ : D.curve.IsPoint Q) :
    D.curve.IsPoint (D.curve.add P Q)
  neg {P : Point} (hP : D.curve.IsPoint P) : D.curve.IsPoint (D.curve.neg P)
  add_assoc {P Q R : Point} (hP : D.curve.IsPoint P) (hQ : D.curve.IsPoint Q)
    (hR : D.curve.IsPoint R) :
    D.curve.add (D.curve.add P Q) R = D.curve.add P (D.curve.add Q R)
  add_neg {P : Point} (hP : D.curve.IsPoint P) : D.curve.add P (D.curve.neg P) = .infinity
  multiple_zero {P : Point} (hP : D.curve.IsPoint P) : D.curve.multiple 0 P = .infinity
  multiple_succ {P : Point} (hP : D.curve.IsPoint P) (k : Nat) :
    D.curve.multiple (k + 1) P = D.curve.add (D.curve.multiple k P) P
  multiple_order : D.curve.multiple D.order D.base = .infinity

namespace Domain.Lawful

variable {D : Domain} (h : D.Lawful) {P : Point}

include h

/-! ## Multiples -/

lemma isPoint_multiple (hP : D.curve.IsPoint P) (k : Nat) :
    D.curve.IsPoint (D.curve.multiple k P) := by
  induction k with
  | zero =>
    rw [h.multiple_zero hP]
    exact trivial
  | succ k ih =>
    rw [h.multiple_succ hP]
    exact h.add ih hP

lemma multiple_add (hP : D.curve.IsPoint P) (j k : Nat) :
    D.curve.multiple (j + k) P = D.curve.add (D.curve.multiple j P) (D.curve.multiple k P) := by
  induction k with
  | zero => rw [h.multiple_zero hP, Curve.add_infinity, Nat.add_zero]
  | succ k ih =>
    rw [← Nat.add_assoc, h.multiple_succ hP, ih, h.multiple_succ hP,
      h.add_assoc (h.isPoint_multiple hP j) (h.isPoint_multiple hP k) hP]

lemma multiple_multiple (hP : D.curve.IsPoint P) (j k : Nat) :
    D.curve.multiple j (D.curve.multiple k P) = D.curve.multiple (j * k) P := by
  have hk := h.isPoint_multiple hP k
  induction j with
  | zero => rw [h.multiple_zero hk, Nat.zero_mul, h.multiple_zero hP]
  | succ j ih => rw [h.multiple_succ hk, ih, Nat.succ_mul, h.multiple_add hP]

/-- A multiple of the base point depends on the scalar modulo the order only. -/
lemma multiple_base_mod (k : Nat) :
    D.curve.multiple (k % D.order) D.base = D.curve.multiple k D.base := by
  -- the order annihilates all multiples of the order
  have hwhole : D.curve.multiple (k / D.order * D.order) D.base = .infinity := by
    rw [← h.multiple_multiple h.base, h.multiple_order, Curve.multiple_infinity]
  conv_rhs => rw [← Nat.div_add_mod' k D.order]
  rw [h.multiple_add h.base, hwhole, Curve.infinity_add]

lemma multiple_base_congr {j k : Nat} (hjk : (j : ZMod D.order) = k) :
    D.curve.multiple j D.base = D.curve.multiple k D.base := by
  rw [← h.multiple_base_mod j, ← h.multiple_base_mod k, (ZMod.natCast_eq_natCast_iff' ..).1 hjk]

/-! ## Public keys -/

/-- The order annihilates the multiples of the base point. -/
lemma multiple_order_multiple (d : Nat) :
    D.curve.multiple D.order (D.curve.multiple d D.base) = .infinity := by
  rw [h.multiple_multiple h.base, ← h.multiple_base_mod, Nat.mul_mod_right,
    h.multiple_zero h.base]

/-- **The public key of a key pair is found by its coordinates.** -/
theorem publicKey?_coordinates {p : KeyPair} (hp : p.Proper) (hD : p.key.domain = D) :
    D.publicKey? p.key.coordinates.1 p.key.coordinates.2 = some p.key := by
  subst hD
  obtain ⟨-, hm, -⟩ := Domain.keyPair?_eq_some hp
  have hpoint := h.isPoint_multiple h.base p.scalar
  have horder := h.multiple_order_multiple p.scalar
  rw [hm] at hpoint horder
  obtain ⟨hx, hy, hcurve⟩ := hpoint
  -- so none of the tests of a public key can fail
  have hvalid : p.key.domain.publicPoint? p.key.coordinates.1 p.key.coordinates.2 =
      some (p.key.x, p.key.y) := by
    refine Option.bind_eq_some_iff.2 ⟨_, hx, Option.bind_eq_some_iff.2 ⟨_, hy, ?_⟩⟩
    exact if_pos ⟨hcurve, .inr horder⟩
  rw [Domain.publicKey?, hvalid]
  rfl

/-! ## Signatures -/

/-- The verifier comes to the point that the signer has made of the nonce. -/
lemma verifyingPoint_eq {d e k : Nat} {S : Signature} (hk : 0 < k) (hlt : k < D.order)
    (hS : D.sign d e k = some S) :
    D.verifyingPoint (D.curve.multiple d D.base) e S.r S.s = D.curve.multiple k D.base := by
  have : Fact D.order.Prime := ⟨h.prime⟩
  obtain ⟨x, y, -, -, hs, -, hpos⟩ := Domain.sign_eq_some hS
  have hslt := (Domain.sign_lt h.prime.pos hS).2
  rw [Domain.verifyingPoint, h.multiple_multiple h.base, ← h.multiple_add h.base]
  -- it remains to compare two scalars modulo the order
  refine h.multiple_base_congr ?_
  have hks : (e + S.r * d : ZMod D.order) = k * S.s := by
    rw [hs]
    push_cast [ZMod.natCast_mod]
    rw [Domain.scalarInverse_cast h.prime hk hlt, mul_inv_cancel_left₀ (Domain.cast_ne_zero hk hlt)]
  push_cast [ZMod.natCast_mod]
  rw [Domain.scalarInverse_cast h.prime hpos hslt]
  calc (e * (S.s : ZMod D.order)⁻¹ + S.r * (S.s : ZMod D.order)⁻¹ * d : ZMod D.order)
      = (e + S.r * d) * (S.s : ZMod D.order)⁻¹ := by ring
    _ = k := by rw [hks, mul_assoc, mul_inv_cancel₀ (Domain.cast_ne_zero hpos hslt), mul_one]

/-- **A signature that is made holds.** -/
theorem verify_eq_valid {d e k : Nat} {S : Signature} (hk : 0 < k) (hlt : k < D.order)
    (hS : D.sign d e k = some S) :
    D.verify (D.curve.multiple d D.base) e S = .valid := by
  obtain ⟨x, y, hR, hr, -, hr0, hs0⟩ := Domain.sign_eq_some hS
  obtain ⟨hrlt, hslt⟩ := Domain.sign_lt h.prime.pos hS
  rw [Domain.verify, if_pos ⟨hr0, hrlt, hs0, hslt⟩, h.verifyingPoint_eq hk hlt hS, hR]
  exact if_pos hr.symm

/-- **A signature made with a key pair holds for its public key.** -/
theorem finding_eq_valid {p : KeyPair} (hp : p.Proper) (hD : p.key.domain = D)
    {hash : HashName} {m : Octets} {S : Signature} (hS : p.Signs hash m S) :
    BigInteger.finding p.key hash m S = .valid := by
  subst hD
  obtain ⟨k, hk, hlt, hS⟩ := hS
  obtain ⟨-, hm, -⟩ := Domain.keyPair?_eq_some hp
  rw [BigInteger.finding, PublicKey.point, ← hm]
  exact h.verify_eq_valid hk hlt hS

end Domain.Lawful

end EcdsaVectors
