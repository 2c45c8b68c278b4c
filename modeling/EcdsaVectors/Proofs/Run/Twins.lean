/-
A first component that can be changed.

The opposite second component is not the only change of one octet that passes.  On the curve of
256 bits there are points whose abscissas differ in the last octet, and so every digest but zero
has a signature that passes with the one first component and with the other
(`Library.exists_twin`).  To refuse opposite components would not change this.
-/
import EcdsaVectors.Proofs.Domain.Twins
import EcdsaVectors.Proofs.Run.Tampering
namespace EcdsaVectors

variable {κ : Type}

namespace Twins

/-- The abscissa of the base point of the curve of 256 bits. -/
def first : Nat := 0x6b17d1f2e12c4247f8bce6e563a440f277037d812deb33a0f4a13945d898c296

/-- An abscissa that differs from it in the last octet. -/
def second : Nat := 0x6b17d1f2e12c4247f8bce6e563a440f277037d812deb33a0f4a13945d898c201

/-- A point with the other abscissa. -/
def point : Point :=
  .affine second 0x686d96a1a2bf7cc9b8d64ae49a5d41f257fd00a573148a358551c7da8549ed81

/-- The check of a signature for a key.  There are zeros in front of the numbers, so that no
field is empty. -/
def case (hash : HashName) (m : Octets) (X Y r s : Nat) : TestCase where
  mode := .sigVer
  group := 1
  number := 1
  curve := .p256
  hash := some hash
  message := m
  qx := 0 :: Octets.ofNat X
  qy := 0 :: Octets.ofNat Y
  r := 0 :: Octets.ofNat r
  s := 0 :: Octets.ofNat s

variable {hash : HashName} {m : Octets} {X Y r s e : Nat}

lemma case_onPart :
    (case hash m X Y first s).onPart (·.set 32 1) .r = case hash m X Y second s := by
  have hset : List.set (0 :: Octets.ofNat first) 32 1 = 0 :: Octets.ofNat second := by
    decide +kernel
  rw [TestCase.onPart, case, hset, case]

lemma valid_case {Q : PublicKey} (hQ : Domain.p256.publicKey? X Y = some Q)
    (hv : Domain.p256.verify Q.point e ⟨r, s⟩ = .valid) : (case hash m X Y r s).Valid .p256 e := by
  have hvalue : ∀ n, Octets.value (0 :: Octets.ofNat n) = n := Octets.value_ofNat
  refine ⟨Q, ?_, ?_⟩
  · rwa [case, hvalue, hvalue]
  · rwa [case, hvalue, hvalue]

/-- There are a key and a second component for which both first components are right. -/
lemma exists_valid (he : ¬ Domain.p256.order ∣ e) : ∃ X Y s, ∀ hash m,
    (case hash m X Y first s).Valid .p256 e ∧ (case hash m X Y second s).Valid .p256 e := by
  have hD : Domain.p256.Certified := Domain.certified_standard (C := .p256) (by decide)
  have hpoint : Domain.p256.curve.IsPoint point :=
    ⟨Field.mem_prime.2 (by decide +kernel), Field.mem_prime.2 (by decide +kernel),
      by decide +kernel⟩
  have hfirst : Domain.p256.HasAbscissa Domain.p256.base first :=
    ⟨first, _, rfl, by decide +kernel⟩
  have hsecond : Domain.p256.HasAbscissa point second := ⟨second, _, rfl, by decide +kernel⟩
  -- what is left to be known of the points and of their abscissas is computed
  obtain ⟨X, Y, Q, s, hQ, hv, hv'⟩ := hD.exists_twin (by decide +kernel) hD.lawful.base hpoint
    hfirst hsecond (by decide +kernel) (by decide +kernel) (by decide +kernel)
    (by decide +kernel) he
  exact ⟨X, Y, s, fun _ _ => ⟨valid_case hQ hv, valid_case hQ hv'⟩⟩

end Twins

/-- **No message is safe from a change of the first component**, on either backend, unless its
digest is zero modulo the order: there is a signature of it that passes with two first
components, which differ in one octet. -/
theorem Library.exists_twin (L : Library) {hash : HashName} {m : Octets}
    (h : ¬ Domain.p256.order ∣ Domain.p256.digestInteger (hash.digest m)) :
    ∃ (c : TestCase) (i : Nat) (o : UInt8), c.mode = .sigVer ∧ c.hash = some hash ∧
      c.message = m ∧ c.onPart (·.set i o) .r ≠ c ∧
      ∀ c' ∈ [c, c.onPart (·.set i o) .r], ∀ (K : KeyStore L.values κ) (s : Session κ Entropy),
        (c'.run K L.backend s).result = .ok () ∧ (c'.run K L.backend s).case.verdict = .pass := by
  obtain ⟨X, Y, s, hvalid⟩ := Twins.exists_valid h
  have hnamed : ∀ r, ¬ (Twins.case hash m X Y r s).Misnamed L.knows := by
    cases L <;> simp [Twins.case, TestCase.Misnamed, knows, FixedWidth.knows]
  have hpass : ∀ {r}, (Twins.case hash m X Y r s).Valid .p256
      (Domain.p256.digestInteger (hash.digest m)) → ∀ (K : KeyStore L.values κ)
      (σ : Session κ Entropy), ((Twins.case hash m X Y r s).run K L.backend σ).result = .ok () ∧
        ((Twins.case hash m X Y r s).run K L.backend σ).case.verdict = .pass := by
    intro r hv K σ
    obtain ⟨hok, hiff⟩ := L.faithful.run_sigVer_iff (K := K) (s := σ) rfl rfl (hnamed r)
      (by simp [Twins.case, TestCase.Incomplete])
    exact ⟨hok, hiff.2 hv⟩
  refine ⟨Twins.case hash m X Y Twins.first s, 32, 1, rfl, rfl, rfl, ?_, ?_⟩
  · rw [Twins.case_onPart]
    intro heq
    have hr : (0 :: Octets.ofNat Twins.second : Octets) = 0 :: Octets.ofNat Twins.first :=
      congrArg TestCase.r heq
    exact absurd hr (by decide +kernel)
  · rw [Twins.case_onPart]
    simp only [List.mem_cons, List.not_mem_nil, or_false]
    rintro c' (rfl | rfl)
    · exact hpass (hvalid hash m).1
    · exact hpass (hvalid hash m).2

end EcdsaVectors
