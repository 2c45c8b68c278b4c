/-
A pass is earned.

Test cases are used again, so a case can come to a check with the verdict of an earlier one.
The check resets it before anything of the case is read, but not before the names in the case
have been looked up.

* `unresolved_or_earned_of_pass`: a case that is left with a pass has been checked with
  success, by requests which earn it (`TestCase.Earned`), or else a name in it is not known;
* `not_earned_of_pass`: in the second case the pass is what it was before.
-/
import EcdsaVectors.Proofs.Backend.Library
import EcdsaVectors.Proofs.Run.Course
import EcdsaVectors.Stream
namespace EcdsaVectors

open Program

variable {V : Values} {κ σ : Type}

namespace TestCase

variable {c : TestCase} {t : List (Entry V)} {task : Task V}

/-- The requests of a check that earns its pass.  The names are looked up, and a public key is
read from the case; if a signature is to be checked, it is read before, and it is found valid
in the end. -/
inductive Earned (c : TestCase) : List (Entry V) → Prop
  | keyVer (hm : c.mode = .keyVer) {cv : V.Curve} {key : V.PublicKey} {u : List (Entry V)}
      (hu : (Codec.readPoint cv c.qx c.qy).Course u (.ok (some key))) :
    Earned c (.asked (.curve c.curve) (some cv) :: u)
  | sigVer (hm : c.mode = .sigVer) {name : HashName} (hh : c.hash = some name) {cv : V.Curve}
      {h : V.Digest} {S : V.Signature} {key : V.PublicKey} {u v : List (Entry V)}
      (hu : (Codec.readSignature c.r c.s).Course u (.ok S))
      (hv : (Codec.readPoint cv c.qx c.qy).Course v (.ok (some key))) :
    Earned c (.asked (.curve c.curve) (some cv) :: .asked (.digest name) (some h) ::
      (u ++ v ++ [.asked (.verify key h c.message S) (.ok true)]))

/-- The task of a check is a check, and so the verdict is reset when it begins. -/
lemma Resolved.verdict_begin (h : c.Resolved task t) (hm : c.mode = .keyVer ∨ c.mode = .sigVer) :
    (c.begin task).verdict = .fail := by
  cases h with
  | keyGen hm' cv => simp [hm'] at hm
  | sigGen hm' hh cv h => simp [hm'] at hm
  | keyVer hm' cv => rfl
  | sigVer hm' hh cv h => rfl

lemma Resolved.earned (h : c.Resolved task t) (hm : c.mode = .keyVer ∨ c.mode = .sigVer)
    {K : KeyStore V κ} {B : Backend V σ} {s : Session κ σ} {o : Output}
    (ho : (task.perform K B s).result = .ok o)
    (hpass : ((c.begin task).record o).verdict = .pass) :
    c.Earned (t ++ requests (task.perform K B s).trace) := by
  cases h with
  | keyGen hm' cv => simp [hm'] at hm
  | sigGen hm' hh cv h => simp [hm'] at hm
  | keyVer hm' cv =>
    have hcourse := course_run B (checkKey cv c.qx c.qy) s.backend
    obtain ⟨k?, hk, rfl⟩ := course_checkKey_ok (ho ▸ hcourse)
    have hsome : k?.isSome := Verdict.ofBool_eq_pass.1 hpass
    obtain ⟨key, rfl⟩ := Option.isSome_iff_exists.1 hsome
    exact .keyVer hm' hk
  | @sigVer hm' name hh cv h =>
    have hcourse := course_run B (checkSignature cv h c.message c.qx c.qy c.r c.s) s.backend
    obtain ⟨S, u, v, hu, hend⟩ := course_checkSignature_ok (ho ▸ hcourse)
    rcases hend with ⟨-, -, rfl⟩ | ⟨key, valid, hv, ht, rfl⟩
    · -- without a public key there is no pass
      cases hpass
    · obtain rfl : valid = true := Verdict.ofBool_eq_pass.1 hpass
      have hearned : c.Earned ([.asked (.curve c.curve) (some cv),
          .asked (.digest name) (some h)] ++
            (u ++ v ++ [.asked (.verify key h c.message S) (.ok true)])) :=
        .sigVer hm' hh hu hv
      rw [← ht] at hearned
      exact hearned

/-- **A pass is earned**, whatever verdict the case came with, unless a name in the case is not
known.  Then the run fails for this reason, and leaves the case as it was. -/
theorem unresolved_or_earned_of_pass (K : KeyStore V κ) (B : Backend V σ) (c : TestCase)
    (s : Session κ σ) (hm : c.mode = .keyVer ∨ c.mode = .sigVer)
    (hpass : (c.run K B s).case.verdict = .pass) :
    (∃ f, (c.run K B s).result = .error f ∧ c.Unresolved f (requests (c.run K B s).trace) ∧
        (c.run K B s).case = c) ∨
      (c.run K B s).result = .ok () ∧ c.Earned (requests (c.run K B s).trace) := by
  cases hr : (s.run B c.task).result with
  | error f =>
    left
    have hunresolved := unresolved_of_result hr
    rw [← requests_run_of_unknown (K := K) hr] at hunresolved
    rw [run_of_unknown hr] at hunresolved ⊢
    exact ⟨f, rfl, hunresolved, rfl⟩
  | ok task =>
    right
    have hresolved := resolved_of_result hr
    cases hd : (task.perform K B (s.run B c.task).state).result with
    | error f =>
      -- the verdict has been reset, and nothing has been written since
      rw [run_of_fault hr hd] at hpass
      have hreset : (c.begin task).verdict = .pass := hpass
      rw [hresolved.verdict_begin hm] at hreset
      cases hreset
    | ok o =>
      rw [requests_run hr]
      rw [run_of_output hr hd] at hpass ⊢
      exact ⟨rfl, hresolved.earned hm hd hpass⟩

end TestCase

/-! ## Two checks -/

namespace Passing

/-- The check of a signature of no octets, made with the scalar one and the nonce one. -/
def case : TestCase where
  mode := .sigVer
  group := 1
  number := 1
  curve := .p256
  hash := some .sha256
  qx := .ofNat 0x6b17d1f2e12c4247f8bce6e563a440f277037d812deb33a0f4a13945d898c296
  qy := .ofNat 0x4fe342e2fe1a7f9b8ee7eb4a7c0f9e162bce33576b315ececbb6406837bf51f5
  r := .ofNat 0x6b17d1f2e12c4247f8bce6e563a440f277037d812deb33a0f4a13945d898c296
  s := .ofNat 0x4ec896367a285e5b93b8dbadfd13fa16e1cac4b7eb6f2868a57d079e5488559a

/-- The check of a point on a curve of 521 bits, in a case that has passed before. -/
def stale : TestCase where
  mode := .keyVer
  group := 0
  number := 0
  curve := .p521
  qx := [1]
  qy := [1]
  verdict := .pass

/-- The run of a case on the backend that knows the curves of 256 and 384 bits. -/
def report (c : TestCase) : Report FixedWidth.values (Slot FixedWidth.values) Entropy :=
  c.run (.slot _) Library.fixedWidth.backend (.fresh { numbers := fun _ => 0 })

end Passing

/-- The check of a valid signature earns its pass. -/
theorem earned_of_passing :
    (Passing.case.mode = .keyVer ∨ Passing.case.mode = .sigVer) ∧
    (Passing.report Passing.case).case.verdict = .pass ∧
    (Passing.report Passing.case).result = .ok () ∧
    Passing.case.Earned (requests (Passing.report Passing.case).trace) := by
  have hm : Passing.case.mode = .keyVer ∨ Passing.case.mode = .sigVer := .inr rfl
  obtain ⟨hpass, hresult⟩ : (Passing.report Passing.case).case.verdict = .pass ∧
      (Passing.report Passing.case).result = .ok () := by
    decide +kernel
  refine ⟨hm, hpass, ?_⟩
  rcases TestCase.unresolved_or_earned_of_pass _ _ _ _ hm hpass with ⟨f, hf, -⟩ | hearned
  · -- the run has not failed
    cases hresult.symm.trans hf
  · exact hearned

/-- A case whose curve is not known keeps the pass that it came with. -/
theorem not_earned_of_pass :
    ¬ ∀ (L : Library) (s : Session (Slot L.values) Entropy) (c : TestCase),
      (c.mode = .keyVer ∨ c.mode = .sigVer) →
      (c.run (.slot _) L.backend s).case.verdict = .pass →
      (c.run (.slot _) L.backend s).result = .ok () ∧
        c.Earned (requests (c.run (.slot _) L.backend s).trace) := by
  intro h
  obtain ⟨hok, -⟩ := h .fixedWidth (.fresh { numbers := fun _ => 0 }) Passing.stale (.inl rfl) rfl
  -- the curve of 521 bits is not known to the backend
  cases hok

end EcdsaVectors
