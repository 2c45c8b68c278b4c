/-
Runs by the textbook.

On a faithful backend a case has a task just if it is not `Misnamed`, and the task holds what the
names and fields of the case stand for (`Task.Of`).  From this follows what a run comes to:

* `run_keyVer`, `run_sigVer`: a check comes to a verdict, the one of the textbook;
* `run_sigGen_ok`: a run that makes a signature leaves the key that it is made with in the
  slot, and writes a signature of the textbook if this key is one of the domain.
-/
import EcdsaVectors.Proofs.Codec.Textbook
import EcdsaVectors.Proofs.GroupKey.Fetch
import EcdsaVectors.Proofs.Run.Course
namespace EcdsaVectors

open Program

variable {V : Values} {κ σ : Type}

/-- A task on a domain that holds what the names and fields of a case stand for. -/
def Task.Of (M : Meaning V) (D : Domain) (c : TestCase) : Task V → Prop
  | keyGen cv => c.mode = .keyGen ∧ M.curve cv D
  | keyVer cv qx qy => c.mode = .keyVer ∧ M.curve cv D ∧ qx = c.qx ∧ qy = c.qy
  | sigGen cv h group m =>
    c.mode = .sigGen ∧ M.curve cv D ∧ (∃ name, c.hash = some name ∧ M.digest h name) ∧
      group = c.group ∧ m = c.message
  | sigVer cv h m qx qy r s =>
    c.mode = .sigVer ∧ M.curve cv D ∧ (∃ name, c.hash = some name ∧ M.digest h name) ∧
      m = c.message ∧ qx = c.qx ∧ qy = c.qy ∧ r = c.r ∧ s = c.s

namespace TestCase

/-- The backend does not know the curve of the case, or a case about signatures names no hash
function. -/
def Misnamed (knows : CurveName → Bool) (c : TestCase) : Prop :=
  knows c.curve = false ∨ (c.mode = .sigGen ∨ c.mode = .sigVer) ∧ c.hash = none

instance (knows : CurveName → Bool) (c : TestCase) : Decidable (c.Misnamed knows) :=
  inferInstanceAs (Decidable (_ ∨ _))

end TestCase

namespace Backend.Faithful

variable {B : Backend V σ} {M : Meaning V} {domains : CurveName → Domain}
  {knows : CurveName → Bool} (hB : B.Faithful M domains knows) {c : TestCase} {task : Task V}
  {s : Session κ σ}

include hB

/-! ## Names -/

lemma curve_of_answer {name : CurveName} {cv : V.Curve} {b : σ}
    (h : (B.respond (.curve name) b).answer = some cv) :
    knows name = true ∧ M.curve cv (domains name) :=
  hB.of_lookUpCurve (Codec.result_lookUpCurve h)

lemma digest_of_answer {name : HashName} {h : V.Digest} {b : σ}
    (ha : (B.respond (.digest name) b).answer = some h) : M.digest h name := by
  obtain ⟨h', ho, hh⟩ := hB.digest name b
  obtain rfl := Option.some.inj (ho.symm.trans ha)
  exact hh

/-- A case that comes to no task is misnamed. -/
lemma misnamed_of_result {f : Fault} (h : (s.run B c.task).result = .error f) :
    c.Misnamed knows ∧ f.kind = .configuration := by
  have hnames := TestCase.unresolved_of_result h
  generalize ht : requests (s.run B c.task).trace = t at hnames
  cases hnames with
  | curve =>
    obtain ⟨b, hb⟩ := TestCase.exists_respond_of_task ht List.mem_cons_self
    refine ⟨.inl ?_, rfl⟩
    cases hk : knows c.curve with
    | false => rfl
    | true =>
      obtain ⟨cv, ho, -⟩ := hB.curve b hk
      cases ho.symm.trans hb
  | noHash hm hh cv => exact ⟨.inr ⟨hm, hh⟩, rfl⟩
  | @hash hm name hh cv =>
    -- all hash functions are known
    obtain ⟨b, hb⟩ := TestCase.exists_respond_of_task ht (List.mem_cons_of_mem _ List.mem_cons_self)
    obtain ⟨d, ho, -⟩ := hB.digest name b
    cases ho.symm.trans hb

/-- A case that comes to a task is not, and the task is as the names and fields say. -/
lemma taskOf_of_result (h : (s.run B c.task).result = .ok task) :
    ¬ c.Misnamed knows ∧ task.Of M (domains c.curve) c := by
  have hnames := TestCase.resolved_of_result h
  generalize ht : requests (s.run B c.task).trace = t at hnames
  -- whatever the mode, the curve has been looked up first
  have hcurve {cv : V.Curve} (hcv : .asked (.curve c.curve) (some cv) ∈ t) :
      knows c.curve = true ∧ M.curve cv (domains c.curve) := by
    obtain ⟨b, hb⟩ := TestCase.exists_respond_of_task ht hcv
    exact hB.curve_of_answer hb
  have hdigest {name : HashName} {d : V.Digest} (hd : .asked (.digest name) (some d) ∈ t) :
      M.digest d name := by
    obtain ⟨b, hb⟩ := TestCase.exists_respond_of_task ht hd
    exact hB.digest_of_answer hb
  cases hnames with
  | keyGen hm cv =>
    obtain ⟨hk, hcv⟩ := hcurve List.mem_cons_self
    exact ⟨by simp [TestCase.Misnamed, hk, hm], hm, hcv⟩
  | keyVer hm cv =>
    obtain ⟨hk, hcv⟩ := hcurve List.mem_cons_self
    exact ⟨by simp [TestCase.Misnamed, hk, hm], hm, hcv, rfl, rfl⟩
  | sigGen hm hh cv d =>
    obtain ⟨hk, hcv⟩ := hcurve List.mem_cons_self
    have hd := hdigest (List.mem_cons_of_mem _ List.mem_cons_self)
    exact ⟨by simp [TestCase.Misnamed, hk, hh], hm, hcv, ⟨_, hh, hd⟩, rfl, rfl⟩
  | sigVer hm hh cv d =>
    obtain ⟨hk, hcv⟩ := hcurve List.mem_cons_self
    have hd := hdigest (List.mem_cons_of_mem _ List.mem_cons_self)
    exact ⟨by simp [TestCase.Misnamed, hk, hh], hm, hcv, ⟨_, hh, hd⟩, rfl, rfl, rfl, rfl, rfl⟩

lemma exists_taskOf (h : ¬ c.Misnamed knows) (s : Session κ σ) :
    ∃ task, (s.run B c.task).result = .ok task ∧ task.Of M (domains c.curve) c := by
  cases hr : (s.run B c.task).result with
  | error f => exact absurd (hB.misnamed_of_result hr).1 h
  | ok task => exact ⟨task, rfl, (hB.taskOf_of_result hr).2⟩

/-! ## Checking -/

/-- **The check of a public key comes to a verdict**, in any session: whether the textbook has
the key. -/
theorem run_keyVer (hk : knows c.curve = true) (hm : c.mode = .keyVer) (hx : c.qx ≠ [])
    (hy : c.qy ≠ []) (K : KeyStore V κ) (s : Session κ σ) :
    (c.run K B s).result = .ok () ∧ (c.run K B s).case.verdict =
      .ofBool ((domains c.curve).publicKey? c.qx.value c.qy.value).isSome := by
  have hnamed : ¬ c.Misnamed knows := by simp [TestCase.Misnamed, hk, hm]
  obtain ⟨task, htask, hof⟩ := hB.exists_taskOf hnamed s
  cases task with
  | keyGen cv => cases hm.symm.trans hof.1
  | sigGen cv h g m => cases hm.symm.trans hof.1
  | sigVer cv h m qx qy r s => cases hm.symm.trans hof.1
  | keyVer cv qx qy =>
    obtain ⟨-, hcv, rfl, rfl⟩ := hof
    have hdone := hB.reads_checkKey hcv c.qx c.qy (s.run B c.task).state.backend
    rw [TestCase.run_of_output htask (hdone.eq_ok (not_or.2 ⟨hx, hy⟩))]
    exact ⟨rfl, rfl⟩

/-- **The check of a signature comes to a verdict**, in any session: whether the textbook has
the key and finds the signature valid. -/
theorem run_sigVer (hk : knows c.curve = true) (hm : c.mode = .sigVer) {hash : HashName}
    (hh : c.hash = some hash) (hx : c.qx ≠ []) (hy : c.qy ≠ []) (hr : c.r ≠ [])
    (hs : c.s ≠ []) (K : KeyStore V κ) (s : Session κ σ) :
    (c.run K B s).result = .ok () ∧ (c.run K B s).case.verdict =
      .ofBool (((domains c.curve).publicKey? c.qx.value c.qy.value).any fun Q =>
        BigInteger.finding Q hash c.message ⟨c.r.value, c.s.value⟩ = .valid) := by
  have hnamed : ¬ c.Misnamed knows := by simp [TestCase.Misnamed, hk, hh]
  obtain ⟨task, htask, hof⟩ := hB.exists_taskOf hnamed s
  cases task with
  | keyGen cv => cases hm.symm.trans hof.1
  | keyVer cv qx qy => cases hm.symm.trans hof.1
  | sigGen cv h g m => cases hm.symm.trans hof.1
  | sigVer cv d m qx qy r s' =>
    obtain ⟨-, hcv, ⟨name, hname, hd⟩, rfl, rfl, rfl, rfl, rfl⟩ := hof
    obtain rfl := Option.some.inj (hname.symm.trans hh)
    have hne : ¬ ((c.r = [] ∨ c.s = []) ∨ c.qx = [] ∨ c.qy = []) := by simp [hx, hy, hr, hs]
    have hdone := hB.reads_checkSignature hcv hd c.message c.qx c.qy c.r c.s
      (s.run B c.task).state.backend
    rw [TestCase.run_of_output htask (hdone.eq_ok hne)]
    exact ⟨rfl, rfl⟩

/-! ## Making a signature -/

/-- **A run that makes a signature leaves its key in the slot**, the one of the group of the
case, and if this is one of a domain, what it writes is a signature of the textbook, next to
the point of the key. -/
theorem run_sigGen_ok (hm : c.mode = .sigGen) {s : Session (Slot V) σ}
    (hok : (c.run (.slot V) B s).result = .ok ()) :
    ∃ k, (c.run (.slot V) B s).session.keys = some k ∧ k.group = c.group ∧ ∀ D, k.MadeOn M D →
      ∃ (hash : HashName) (p : KeyPair) (T : Signature), c.hash = some hash ∧ p.Proper ∧
        p.key.domain = D ∧ p.Signs hash c.message T ∧
        (c.run (.slot V) B s).case =
          c.record (.signature (Octets.ofNat T.r) (Octets.ofNat T.s)
            (Octets.ofNat p.key.coordinates.1) (Octets.ofNat p.key.coordinates.2)) := by
  obtain ⟨task, o, htask, ho, hcase, hsession⟩ := TestCase.exists_output hok
  obtain ⟨-, hof⟩ := hB.taskOf_of_result htask
  cases task with
  | keyGen cv => exact absurd (hm.symm.trans hof.1) (by decide)
  | keyVer cv qx qy => exact absurd (hm.symm.trans hof.1) (by decide)
  | sigVer cv h m qx qy r s => exact absurd (hm.symm.trans hof.1) (by decide)
  | sigGen cv h group m =>
    obtain ⟨-, -, ⟨hash, hhash, hh⟩, rfl, rfl⟩ := hof
    obtain ⟨f, hf, ho, hstate⟩ := Outcome.exists_of_andThen ho
    obtain ⟨hkeys, hgroup⟩ := Session.keys_fetch_slot hf
    refine ⟨f.key, ?_, hgroup, fun D hk => ?_⟩
    · -- the signature is made after the key is fetched, and leaves the slot alone
      rw [hsession]
      exact (congrArg Session.keys hstate).trans hkeys
    · -- the key is one of the domain, whatever curve the case names
      obtain ⟨p, T, hp, hD, hsigns, rfl⟩ := hB.exists_signs_of_makeSignature hk hh ho
      exact ⟨hash, p, T, hhash, hp, hD, hsigns, hcase⟩

end Backend.Faithful

end EcdsaVectors
