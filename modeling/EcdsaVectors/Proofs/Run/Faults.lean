/-
What a run can fail for.

That a key or a signature is invalid is no fault.  On both backends a run fails for the names
in the case (`TestCase.Misnamed`), or, if a check, for a field that it reads and that is empty
(`TestCase.Incomplete`), or, if no check, for the backend; and for nothing else.  So a check of
fields that are not empty comes to a verdict, whatever is in the fields
(`Library.faultKind_run`).
-/
import EcdsaVectors.Proofs.Backend.Steady
import EcdsaVectors.Proofs.Run.Textbook
namespace EcdsaVectors

open Program

variable {V : Values} {κ σ α : Type}

namespace TestCase

/-- A field is empty that the check of the case reads as a number. -/
def Incomplete (c : TestCase) : Prop :=
  c.mode = .keyVer ∧ (c.qx = [] ∨ c.qy = []) ∨
    c.mode = .sigVer ∧ (c.r = [] ∨ c.s = [] ∨ c.qx = [] ∨ c.qy = [])

instance (c : TestCase) : Decidable c.Incomplete :=
  inferInstanceAs (Decidable (_ ∨ _))

end TestCase

/-- The kind of the fault that a run ends in, if it ends in one. -/
def Report.faultKind? (r : Report V κ σ) : Option FaultKind :=
  match r.result with
  | .ok _ => none
  | .error f => some f.kind

lemma Task.Of.isCheck_iff {M : Meaning V} {D : Domain} {c : TestCase} {task : Task V}
    (h : task.Of M D c) : task.isCheck = true ↔ c.mode = .keyVer ∨ c.mode = .sigVer := by
  cases task with
  | keyGen cv => simp [isCheck, h.1]
  | keyVer cv qx qy => simp [isCheck, h.1]
  | sigGen cv d g m => simp [isCheck, h.1]
  | sigVer cv d m qx qy r s => simp [isCheck, h.1]

/-! ## Making keys and signatures -/

namespace Backend.Steady

variable {B : Backend V σ} (hB : B.Steady)

include hB

/-- In the making of a key or a signature the backend itself is to blame for any fault. -/
lemma kind_of_stop? {m : Method} {q : Request V m} {b : σ} {f : Fault}
    (hm : m ∈ [.generateKeyPair, .privateScalar, .publicKey, .coordinates, .octetsOfInteger,
      .sign, .components])
    (h : q.stop? (B.respond q b).answer = some (.error f)) : f.kind = .provider := by
  cases q with
  | generateKeyPair cv => exact hB.generateKeyPair cv b (Fault.stop?_eq_error.1 h)
  | sign pair d m => exact hB.sign pair d m b (Fault.stop?_eq_error.1 h)
  | privateScalar pair =>
    obtain ⟨i, hi⟩ := hB.privateScalar pair b
    cases hi.symm.trans (Fault.stop?_eq_error.1 h)
  | publicKey pair =>
    obtain ⟨k, hk⟩ := hB.publicKey pair b
    cases hk.symm.trans (Fault.stop?_eq_error.1 h)
  | coordinates k =>
    obtain ⟨p, hp⟩ := hB.coordinates k b
    cases hp.symm.trans (Fault.stop?_eq_error.1 h)
  | components S =>
    obtain ⟨p, hp⟩ := hB.components S b
    cases hp.symm.trans (Fault.stop?_eq_error.1 h)
  | octetsOfInteger i => cases h
  | _ => simp at hm

lemma kind_of_keeps {p : Program V α} {l : List (Station V)} {E : α → Prop} {L : List Event}
    {b : σ} {f : Fault} (hp : p.Keeps l E L)
    (hl : ∀ S ∈ l, ∃ m ∈ [.generateKeyPair, .privateScalar, .publicKey, .coordinates,
      .octetsOfInteger, .sign, .components], S.method? = some m)
    (hf : (p.run B b).result = .error f) : f.kind = .provider := by
  rcases hp.fault_cases hf with ⟨Q, hQ, -⟩ | ⟨m, q, b', hm, hstop⟩
  · obtain ⟨m, -, hm⟩ := hl _ hQ
    cases hm
  · obtain ⟨S, hS, hSm⟩ := List.mem_filterMap.1 hm
    obtain ⟨m', hm', hSm'⟩ := hl S hS
    obtain rfl := Option.some.inj (hSm'.symm.trans hSm)
    exact hB.kind_of_stop? hm' hstop

/-- A key that cannot be fetched is the fault of the backend, whatever the store is. -/
lemma kind_of_fetch (K : KeyStore V κ) {g : UInt32} {c : V.Curve} {s : Session κ σ} {f : Fault}
    (hf : (s.fetch K B g c).result = .error f) : f.kind = .provider := by
  rw [Session.fetch] at hf
  cases hk : K.find? s.keys g with
  | some k =>
    rw [hk] at hf
    cases hf
  | none =>
    rw [hk] at hf
    cases hmade : ((GroupKey.generate g c).run B s.backend).result with
    | error e =>
      have hrun : (Session.run B (GroupKey.generate g c)
          ({ s with keys := (K.makeRoom s.keys g).1 } : Session κ σ)).result = .error e := hmade
      simp only [Outcome.after, Outcome.andThen_of_error hrun] at hf
      obtain rfl : e = f := Except.error.inj hf
      exact hB.kind_of_keeps (GroupKey.keeps_generate g c) (by simp) hmade
    | ok k =>
      have hrun : (Session.run B (GroupKey.generate g c)
          ({ s with keys := (K.makeRoom s.keys g).1 } : Session κ σ)).result = .ok k := hmade
      simp only [Outcome.after, Outcome.andThen_of_ok hrun] at hf
      cases hf

/-- A task that is no check fails for the backend only, whatever keys there are. -/
lemma kind_of_perform (K : KeyStore V κ) {task : Task V} (hcheck : task.isCheck = false)
    {s : Session κ σ} {f : Fault} (hf : (task.perform K B s).result = .error f) :
    f.kind = .provider := by
  cases task with
  | keyVer c qx qy => cases hcheck
  | sigVer c h m qx qy r s => cases hcheck
  | keyGen c => exact hB.kind_of_keeps (keeps_makeKey c) (by simp) hf
  | sigGen c h g m =>
    rw [Task.perform] at hf
    cases hfetch : (s.fetch K B g c).result with
    | error e =>
      rw [Outcome.andThen_of_error hfetch] at hf
      obtain rfl : e = f := Except.error.inj hf
      exact hB.kind_of_fetch K hfetch
    | ok k =>
      rw [Outcome.andThen_of_ok hfetch] at hf
      exact hB.kind_of_keeps (keeps_makeSignature _ h m) (by simp) hf

end Backend.Steady

/-! ## Checks -/

namespace Backend.Faithful

variable {B : Backend V σ} {M : Meaning V} {domains : CurveName → Domain}
  {knows : CurveName → Bool} (hB : B.Faithful M domains knows) {c : TestCase}
  {K : KeyStore V κ} {s : Session κ σ} {task : Task V}

include hB

/-- A check comes to a verdict, unless a field is empty that it reads. -/
lemma exists_reads_perform (hof : task.Of M (domains c.curve) c) (hcheck : task.isCheck = true) :
    ∃ o, Textbook.Reads c.Incomplete (task.perform K B s).result o := by
  cases task with
  | keyGen cv => cases hcheck
  | sigGen cv d g m => cases hcheck
  | keyVer cv qx qy =>
    obtain ⟨hm, hcv, rfl, rfl⟩ := hof
    have hempty : c.Incomplete ↔ c.qx = [] ∨ c.qy = [] := by simp [TestCase.Incomplete, hm]
    rw [hempty]
    exact ⟨_, hB.reads_checkKey hcv c.qx c.qy s.backend⟩
  | sigVer cv d m qx qy r s' =>
    obtain ⟨hm, hcv, ⟨name, -, hd⟩, rfl, rfl, rfl, rfl, rfl⟩ := hof
    have hempty : c.Incomplete ↔ (c.r = [] ∨ c.s = []) ∨ c.qx = [] ∨ c.qy = [] := by
      simp [TestCase.Incomplete, hm, or_assoc]
    rw [hempty]
    exact ⟨_, hB.reads_checkSignature hcv hd c.message c.qx c.qy c.r c.s s.backend⟩

/-! ## Runs -/

lemma run_misnamed (h : c.Misnamed knows) :
    (c.run K B s).faultKind? = some .configuration := by
  cases hr : (s.run B c.task).result with
  | ok task => exact absurd h (hB.taskOf_of_result hr).1
  | error f =>
    rw [TestCase.run_of_unknown hr]
    exact congrArg some (hB.misnamed_of_result hr).2

lemma run_incomplete (h : ¬ c.Misnamed knows) (hi : c.Incomplete) :
    (c.run K B s).faultKind? = some .encoding := by
  obtain ⟨task, htask, hof⟩ := hB.exists_taskOf h s
  have hmode : c.mode = .keyVer ∨ c.mode = .sigVer := hi.imp And.left And.left
  obtain ⟨o, hreads⟩ := hB.exists_reads_perform (K := K) (s := (s.run B c.task).state) hof
    (hof.isCheck_iff.2 hmode)
  obtain ⟨f, hf, hkind⟩ := hreads.exists_fault hi
  rw [TestCase.run_of_fault htask hf]
  exact congrArg some hkind

lemma run_complete (h : ¬ c.Misnamed knows) (hm : c.mode = .keyVer ∨ c.mode = .sigVer)
    (hi : ¬ c.Incomplete) : (c.run K B s).result = .ok () := by
  obtain ⟨task, htask, hof⟩ := hB.exists_taskOf h s
  obtain ⟨o, hreads⟩ := hB.exists_reads_perform (K := K) (s := (s.run B c.task).state) hof
    (hof.isCheck_iff.2 hm)
  rw [TestCase.run_of_output htask (hreads.eq_ok hi)]

lemma run_made (hS : B.Steady) (h : ¬ c.Misnamed knows)
    (hm : ¬ (c.mode = .keyVer ∨ c.mode = .sigVer)) :
    (c.run K B s).faultKind? = none ∨ (c.run K B s).faultKind? = some .provider := by
  obtain ⟨task, htask, hof⟩ := hB.exists_taskOf h s
  have hcheck : task.isCheck = false := by
    rw [← Bool.not_eq_true]
    exact fun hcheck => hm (hof.isCheck_iff.1 hcheck)
  cases hd : (task.perform K B (s.run B c.task).state).result with
  | ok o =>
    rw [TestCase.run_of_output htask hd]
    exact .inl rfl
  | error f =>
    have hkind := hS.kind_of_perform K hcheck hd
    rw [TestCase.run_of_fault htask hd]
    exact .inr (congrArg some hkind)

lemma faultKind?_cases (hS : B.Steady) (K : KeyStore V κ) (c : TestCase) (s : Session κ σ) :
    c.Misnamed knows ∧ (c.run K B s).faultKind? = some .configuration ∨
      ¬ c.Misnamed knows ∧ c.Incomplete ∧ (c.run K B s).faultKind? = some .encoding ∨
      ¬ c.Misnamed knows ∧ ¬ c.Incomplete ∧ ((c.run K B s).faultKind? = none ∨
        (c.mode = .keyGen ∨ c.mode = .sigGen) ∧ (c.run K B s).faultKind? = some .provider) := by
  by_cases h : c.Misnamed knows
  · exact .inl ⟨h, hB.run_misnamed h⟩
  by_cases hi : c.Incomplete
  · exact .inr (.inl ⟨h, hi, hB.run_incomplete h hi⟩)
  by_cases hm : c.mode = .keyVer ∨ c.mode = .sigVer
  · have hok := hB.run_complete (K := K) (s := s) h hm hi
    refine .inr (.inr ⟨h, hi, .inl ?_⟩)
    rw [Report.faultKind?, hok]
  · have hm' : c.mode = .keyGen ∨ c.mode = .sigGen := by
      cases hmode : c.mode <;> simp [hmode] at hm ⊢
    refine .inr (.inr ⟨h, hi, ?_⟩)
    exact (hB.run_made hS h hm).imp_right fun hk => ⟨hm', hk⟩

end Backend.Faithful

/-- **What a run can fail for**, on either backend, with any store of keys in any state.

The fault lies in the names just where the curve is not known or the name of a hash function
is missing.  Otherwise it lies in the octets just where the case is a check and a field is
empty that it reads.  The backend is to blame in no check.  So a check whose names are known
comes to a verdict, whatever is written into the fields, if none of those that it reads is
empty. -/
theorem Library.faultKind_run (L : Library) (K : KeyStore L.values κ) (c : TestCase)
    (s : Session κ Entropy) :
    ((c.run K L.backend s).faultKind? = some .configuration ↔ c.Misnamed L.knows) ∧
    ((c.run K L.backend s).faultKind? = some .encoding ↔
      ¬ c.Misnamed L.knows ∧ c.Incomplete) ∧
    ((c.run K L.backend s).faultKind? = some .provider → c.mode = .keyGen ∨ c.mode = .sigGen) ∧
    ((c.mode = .keyVer ∨ c.mode = .sigVer) → ¬ c.Misnamed L.knows →
      ∀ message qx qy r s',
        let c' := { c with message := message, qx := qx, qy := qy, r := r, s := s' }
        ¬ c'.Incomplete → (c'.run K L.backend s).result = .ok ()) := by
  have hcases := L.faithful.faultKind?_cases L.steady K c s
  refine ⟨?_, ?_, ?_, ?_⟩
  · rcases hcases with ⟨h, hk⟩ | ⟨h, hi, hk⟩ | ⟨h, hi, hk | ⟨hm, hk⟩⟩
    all_goals simp [h, hk]
  · rcases hcases with ⟨h, hk⟩ | ⟨h, hi, hk⟩ | ⟨h, hi, hk | ⟨hm, hk⟩⟩
    · simp [h, hk]
    · simp [h, hi, hk]
    · simp [hi, hk]
    · simp [hi, hk]
  · intro hprovider
    rcases hcases with ⟨h, hk⟩ | ⟨h, hi, hk⟩ | ⟨h, hi, hk | ⟨hm, hk⟩⟩
    · cases hk.symm.trans hprovider
    · cases hk.symm.trans hprovider
    · cases hk.symm.trans hprovider
    · exact hm
  · intro hm h message qx qy r s' c' hi
    exact L.faithful.run_complete (c := c') h hm hi

namespace Garbage

/-- A case that asks for the check of a signature, and says nothing else. -/
def case : TestCase where
  mode := .sigVer
  group := 0
  number := 0
  curve := .p384
  hash := some .sha1

end Garbage

/-- The check of a hundred octets that are no signature comes to a verdict, for a point that is
none. -/
theorem faultKind_run_of_garbage :
    let c' : TestCase := { Garbage.case with
      message := [1], qx := .replicate 100 255, qy := [0], r := .replicate 100 255, s := [0] }
    Garbage.case.mode = .sigVer ∧ ¬ Garbage.case.Misnamed Library.fixedWidth.knows ∧
      ¬ c'.Incomplete ∧
      (c'.run (.slot _) Library.fixedWidth.backend ⟨none, { numbers := id }⟩).result = .ok () := by
  intro c'
  have hnamed : ¬ Garbage.case.Misnamed Library.fixedWidth.knows := by decide
  have hcomplete : ¬ c'.Incomplete := by decide
  obtain ⟨-, -, -, hok⟩ := Library.faultKind_run .fixedWidth (.slot _) Garbage.case
    ⟨none, { numbers := id }⟩
  exact ⟨rfl, hnamed, hcomplete, hok (.inr rfl) hnamed _ _ _ _ _ hcomplete⟩

end EcdsaVectors
