/-
Verdicts by the textbook.

The verdict on a public key or a signature goes through several hands: octets are trimmed and
widened, what is too long is refused, the digest is cut, and points are added by chord and
tangent.  On a faithful backend nothing of this can be seen from outside.  The verdict tells
whether the octets stand for a solution of the equation of the curve, and for a signature that
holds in its group.

* `Domain.Certified.any_finding_iff`: what the textbook takes for valid, in the group;
* `FixedWidth.run_check`: the verdicts on the curves of 256 and 384 bits.
-/
import EcdsaVectors.Proofs.Domain.Signature
import EcdsaVectors.Proofs.Domain.Standard
import EcdsaVectors.Proofs.Run.Textbook
import EcdsaVectors.Proofs.Run.Verdict
namespace EcdsaVectors

open Program

variable {κ : Type}

namespace Domain

variable {D : Domain}

/-- A public key and a signature that the textbook takes for valid. -/
lemma Certified.any_finding_iff (hD : D.Certified) (hw : D.WholeOctets) (hash : HashName)
    (m : Octets) (X Y R S : Nat) :
    ((D.publicKey? X Y).any fun Q => BigInteger.finding Q hash m ⟨R, S⟩ = .valid) ↔
      D.IsKey X Y ∧ D.Holds X Y (Octets.value ((hash.digest m).take D.fieldLength)) R S := by
  rw [hD.publicKey?_eq]
  by_cases hkey : D.IsKey X Y
  · rw [if_pos hkey, ← digestInteger_eq_value_take hw.orderBits, ← hD.verify_eq_valid_iff hkey]
    simp only [Option.any_some, hkey, true_and]
    exact decide_eq_true_iff
  · simp [hkey]

end Domain

/-- **The verdicts of the backend on strings of octets are those of the textbook**, for all
octets that are not empty, with any store of keys in any state.  A public key passes just
where its coordinates are a solution of the equation of the curve, below the modulus.  A
signature passes just where moreover it holds in the group of the curve, for the integer of
as many leading octets of the digest as a coordinate has. -/
theorem FixedWidth.run_check (K : KeyStore values κ) (s : Session κ Entropy) (c : TestCase)
    (hC : c.curve = .p256 ∨ c.curve = .p384) (hx : c.qx ≠ []) (hy : c.qy ≠ []) :
    let D := Domain.standard c.curve
    let report := c.run K (.fixedWidth .standard) s
    (c.mode = .keyVer → report.result = .ok () ∧
      (report.case.verdict = .pass ↔ D.IsKey c.qx.value c.qy.value)) ∧
    ∀ hash, c.mode = .sigVer → c.hash = some hash → c.r ≠ [] → c.s ≠ [] →
      report.result = .ok () ∧
      (report.case.verdict = .pass ↔ D.IsKey c.qx.value c.qy.value ∧
        D.Holds c.qx.value c.qy.value
          (Octets.value ((hash.digest c.message).take D.fieldLength)) c.r.value c.s.value) := by
  have hB : (Backend.fixedWidth .standard).Faithful meaning .standard knows :=
    faithful fun _ => wholeOctets_standard
  have hk : knows c.curve = true := by
    rcases hC with h | h <;> rw [h] <;> rfl
  have hD : (Domain.standard c.curve).Certified :=
    Domain.certified_standard (by rcases hC with h | h <;> simp [h])
  refine ⟨fun hm => ?_, fun hash hm hh hr hs => ?_⟩
  · obtain ⟨hok, hverdict⟩ := hB.run_keyVer hk hm hx hy K s
    refine ⟨hok, ?_⟩
    rw [hverdict, Verdict.ofBool_eq_pass, hD.publicKey?_eq]
    simp
  · obtain ⟨hok, hverdict⟩ := hB.run_sigVer hk hm hh hx hy hr hs K s
    refine ⟨hok, ?_⟩
    rw [hverdict, Verdict.ofBool_eq_pass]
    exact hD.any_finding_iff (wholeOctets_standard hk) hash c.message _ _ _ _

namespace Passing

/-- The run of the case on the backend on strings of octets. -/
def checked : Report FixedWidth.values (Slot FixedWidth.values) Entropy :=
  case.run (.slot _) (.fixedWidth .standard) (.fresh { numbers := id })

end Passing

/-- A signature of no octets, made with the scalar one and the nonce one, passes, and so it
holds. -/
theorem holds_of_passing :
    (Passing.case.curve = .p256 ∨ Passing.case.curve = .p384) ∧ Passing.case.qx ≠ [] ∧
      Passing.case.qy ≠ [] ∧ Passing.case.r ≠ [] ∧ Passing.case.s ≠ [] ∧
      Passing.checked.result = .ok () ∧ Passing.checked.case.verdict = .pass ∧
      Domain.p256.IsKey Passing.case.qx.value Passing.case.qy.value ∧
      Domain.p256.Holds Passing.case.qx.value Passing.case.qy.value
        (Octets.value ((HashName.sha256.digest []).take Domain.p256.fieldLength))
        Passing.case.r.value Passing.case.s.value := by
  have hfields : Passing.case.qx ≠ [] ∧ Passing.case.qy ≠ [] ∧ Passing.case.r ≠ [] ∧
      Passing.case.s ≠ [] := by
    decide +kernel
  obtain ⟨hx, hy, hr, hs⟩ := hfields
  obtain ⟨-, hsigVer⟩ := FixedWidth.run_check (.slot _) (.fresh { numbers := id }) Passing.case
    (.inl rfl) hx hy
  obtain ⟨hok, hiff⟩ := hsigVer .sha256 rfl rfl hr hs
  have hpass : Passing.checked.case.verdict = .pass := by decide +kernel
  rw [Passing.checked] at hpass ⊢
  exact ⟨.inl rfl, hx, hy, hr, hs, hok, hpass, hiff.1 hpass⟩

end EcdsaVectors
