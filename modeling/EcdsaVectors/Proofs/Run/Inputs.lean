/-
What a run reads of its case.

The fields of a case serve as inputs and as outputs, and some of them as both.  Which are read
depends on the mode.  All other fields can hold anything, be it left over from an earlier run
or written by somebody else.

* `TestCase.inputs`: the fields that are read, and `TestCase.output`: those that are written;
* `TestCase.run_of_inputs`: two cases with the same inputs are run with the same result, by
  the same requests, with the same output, and leave the same session.  The keys that are kept
  are an input for signatures only, and the verdict is none, so that a check can be repeated.
-/
import EcdsaVectors.Proofs.Backend.Functional
import EcdsaVectors.Proofs.Run.Verdict
import EcdsaVectors.Proofs.Stream.Cases
namespace EcdsaVectors

open Program

variable {V : Values} {κ σ : Type}

/-! ## The fields of a mode -/

/-- The fields that the run of a case reads. -/
inductive Inputs where
  | keyGen (curve : CurveName)
  | keyVer (curve : CurveName) (qx qy : Octets)
  | sigGen (curve : CurveName) (hash : Option HashName) (group : UInt32) (message : Octets)
  | sigVer (curve : CurveName) (hash : Option HashName) (message qx qy r s : Octets)
  deriving DecidableEq

namespace TestCase

/-- The fields of a case that its run reads. -/
def inputs (c : TestCase) : Inputs :=
  match c.mode with
  | .keyGen => .keyGen c.curve
  | .keyVer => .keyVer c.curve c.qx c.qy
  | .sigGen => .sigGen c.curve c.hash c.group c.message
  | .sigVer => .sigVer c.curve c.hash c.message c.qx c.qy c.r c.s

/-- The fields of a case that its run writes. -/
def output (c : TestCase) : Output :=
  match c.mode with
  | .keyGen => .key c.d c.qx c.qy
  | .keyVer | .sigVer => .verdict c.verdict
  | .sigGen => .signature c.r c.s c.qx c.qy

variable {c c' : TestCase}

lemma mode_eq_of_inputs (h : c.inputs = c'.inputs) : c.mode = c'.mode := by
  unfold inputs at h
  cases hm : c.mode <;> cases hm' : c'.mode <;> simp [hm, hm'] at h ⊢

lemma task_eq_of_inputs (h : c.inputs = c'.inputs) :
    (c.task : Program V (Task V)) = c'.task := by
  have hmode := mode_eq_of_inputs h
  unfold inputs at h
  unfold task
  rw [← hmode] at h ⊢
  cases hm : c.mode with
  | keyGen =>
    simp only [hm, Inputs.keyGen.injEq] at h
    rw [h]
  | keyVer =>
    simp only [hm, Inputs.keyVer.injEq] at h
    obtain ⟨hcurve, hqx, hqy⟩ := h
    rw [hcurve, hqx, hqy]
  | sigGen =>
    simp only [hm, Inputs.sigGen.injEq] at h
    obtain ⟨hcurve, hhash, hgroup, hmessage⟩ := h
    rw [hcurve, hhash, hgroup, hmessage]
  | sigVer =>
    simp only [hm, Inputs.sigVer.injEq] at h
    obtain ⟨hcurve, hhash, hmessage, hqx, hqy, hr, hs⟩ := h
    rw [hcurve, hhash, hmessage, hqx, hqy, hr, hs]

end TestCase

/-! ## Outputs -/

section

variable {K : KeyStore V κ} {B : Backend V σ} {s : Session κ σ} {o : Output}

lemma Task.exists_verdict_of_check {task : Task V} (ht : task.isCheck)
    (ho : (task.perform K B s).result = .ok o) : ∃ v, o = .verdict v := by
  cases task with
  | keyGen cv => cases ht
  | sigGen cv d g m => cases ht
  | keyVer cv qx qy =>
    have hcourse := course_run B (checkKey cv qx qy) s.backend
    obtain ⟨k?, -, rfl⟩ := course_checkKey_ok (ho ▸ hcourse)
    exact ⟨_, rfl⟩
  | sigVer cv d m qx qy r s' =>
    have hcourse := course_run B (checkSignature cv d m qx qy r s') s.backend
    obtain ⟨S, u, v, -, ⟨-, -, rfl⟩ | ⟨key, valid, -, -, rfl⟩⟩ :=
      course_checkSignature_ok (ho ▸ hcourse)
    · exact ⟨_, rfl⟩
    · exact ⟨_, rfl⟩

/-- The fields that a run writes hold what its task has come to. -/
lemma TestCase.Resolved.output_record {c : TestCase} {task : Task V} {q : List (Entry V)}
    (h : c.Resolved task q) (ho : (task.perform K B s).result = .ok o) :
    ((c.begin task).record o).output = o := by
  cases h with
  | keyGen hm cv =>
    have hcourse := course_run B (makeKey cv) s.backend
    obtain ⟨pair, i, key, x, y, d, qx, qy, rfl, -⟩ := course_makeKey_ok (ho ▸ hcourse)
    simp [TestCase.output, TestCase.begin, TestCase.record, Task.isCheck, hm]
  | keyVer hm cv =>
    obtain ⟨v, rfl⟩ := Task.exists_verdict_of_check rfl ho
    simp [TestCase.output, TestCase.begin, TestCase.record, Task.isCheck, hm]
  | sigVer hm hh cv d =>
    obtain ⟨v, rfl⟩ := Task.exists_verdict_of_check rfl ho
    simp [TestCase.output, TestCase.begin, TestCase.record, Task.isCheck, hm]
  | sigGen hm hh cv d =>
    obtain ⟨fetched, -, hsigned, -⟩ := Outcome.exists_of_andThen ho
    have hcourse := course_run B (makeSignature fetched.key d c.message)
      (s.fetch K B c.group cv).state.backend
    obtain ⟨S, x, y, r, s', rfl, -⟩ := course_makeSignature_ok (hsigned ▸ hcourse)
    simp [TestCase.output, TestCase.begin, TestCase.record, Task.isCheck, hm]

end

/-! ## Runs with the same inputs -/

/-- Two runs that come to the same: in the result, in the requests, in the state of the backend
and, if they succeed, in the output. -/
structure Report.SameWork (r r' : Report V κ σ) : Prop where
  result : r.result = r'.result
  requests : requests r.trace = requests r'.trace
  backend : r.session.backend = r'.session.backend
  output (h : r.result = .ok ()) : r.case.output = r'.case.output

lemma Report.SameWork.trans {r r' r'' : Report V κ σ} (h : r.SameWork r') (h' : r'.SameWork r'') :
    r.SameWork r'' where
  result := h.result.trans h'.result
  requests := h.requests.trans h'.requests
  backend := h.backend.trans h'.backend
  output hok := (h.output hok).trans (h'.output (h.result ▸ hok))

/-- A task for which no group key is wanted does not look at the keys. -/
lemma Task.perform_matches {K : KeyStore V κ} {B : Backend V σ} {task : Task V}
    (ht : task.group? = none) {s t : Session κ σ} (h : s.backend = t.backend) :
    (task.perform K B s).Matches
      (fun s' t' => s'.keys = s.keys ∧ t'.keys = t.keys ∧ s'.backend = t'.backend)
      (task.perform K B t) := by
  cases task with
  | keyGen cv => exact Session.run_matches _ h
  | keyVer cv qx qy => exact Session.run_matches _ h
  | sigVer cv d m qx qy r s => exact Session.run_matches _ h
  | sigGen cv d g m => cases ht

namespace TestCase

variable {c c' : TestCase} {K : KeyStore V κ} {B : Backend V σ}

lemma Resolved.group?_eq_none {task : Task V} {q : List (Entry V)} (h : c.Resolved task q)
    (hm : c.mode ≠ .sigGen) : task.group? = none := by
  cases h with
  | keyGen hm' cv => rfl
  | keyVer hm' cv => rfl
  | sigGen hm' hh cv d => exact absurd hm' hm
  | sigVer hm' hh cv d => rfl

lemma sameWork_of_inputs (h : c.inputs = c'.inputs) (s : Session κ σ) :
    (c.run K B s).SameWork (c'.run K B s) ∧ (c.run K B s).session = (c'.run K B s).session := by
  have htask : (c.task : Program V (Task V)) = c'.task := task_eq_of_inputs h
  cases hr : (s.run B c.task).result with
  | error f =>
    have hr' : (s.run B c'.task).result = .error f := htask ▸ hr
    rw [run_of_unknown hr, run_of_unknown hr', ← htask]
    refine ⟨⟨rfl, ?_, rfl, ?_⟩, rfl⟩
    · simp [failed, opening]
    · rintro ⟨⟩
  | ok task =>
    have hr' : (s.run B c'.task).result = .ok task := htask ▸ hr
    cases hd : (task.perform K B (s.run B c.task).state).result with
    | error f =>
      rw [run_of_fault hr hd, run_of_fault hr' (htask ▸ hd), ← htask]
      refine ⟨⟨rfl, ?_, rfl, ?_⟩, rfl⟩
      · simp [failed, opening]
      · rintro ⟨⟩
    | ok o =>
      have houtput := (resolved_of_result hr).output_record hd
      have houtput' := (resolved_of_result hr').output_record hd
      rw [run_of_output hr hd, run_of_output hr' (htask ▸ hd), ← htask]
      refine ⟨⟨rfl, ?_, rfl, fun _ => houtput.trans houtput'.symm⟩, rfl⟩
      simp [opening]

/-- A case that asks for no signature is run alike whatever keys there are, and leaves them as
they are. -/
lemma sameWork_of_backend (hm : c.mode ≠ .sigGen) {s s' : Session κ σ}
    (h : s.backend = s'.backend) :
    (c.run K B s).SameWork (c.run K B s') ∧ (c.run K B s).session.keys = s.keys ∧
      (c.run K B s').session.keys = s'.keys := by
  obtain ⟨hresult, ⟨hkeys, hkeys', hbackend⟩, hrequests⟩ := Session.run_matches (B := B) c.task h
  cases hr : (s.run B c.task).result with
  | error f =>
    rw [run_of_unknown hr, run_of_unknown (hresult.symm.trans hr)]
    refine ⟨⟨rfl, ?_, hbackend, fun _ => rfl⟩, hkeys, hkeys'⟩
    simp [failed, opening, hrequests]
  | ok task =>
    have hr' := hresult.symm.trans hr
    have hgroup := (resolved_of_result hr).group?_eq_none hm
    obtain ⟨hresult', ⟨hleft, hleft', hbackend'⟩, hrequests'⟩ :=
      Task.perform_matches (K := K) (B := B) hgroup hbackend
    cases hd : (task.perform K B (s.run B c.task).state).result with
    | error f =>
      rw [run_of_fault hr hd, run_of_fault hr' (hresult'.symm.trans hd)]
      refine ⟨⟨rfl, ?_, hbackend', fun _ => rfl⟩, hleft.trans hkeys, hleft'.trans hkeys'⟩
      simp [failed, opening, hrequests, hrequests']
    | ok o =>
      rw [run_of_output hr hd, run_of_output hr' (hresult'.symm.trans hd)]
      refine ⟨⟨rfl, ?_, hbackend', fun _ => rfl⟩, hleft.trans hkeys, hleft'.trans hkeys'⟩
      simp [opening, hrequests, hrequests']

end TestCase

/-! ## Checks that are repeated -/

/-- Where the answers do not depend on the state, neither does what a check finds. -/
lemma Task.result_perform_of_uniform {K : KeyStore V κ} {B : Backend V σ} (hB : B.Uniform)
    {task : Task V} (ht : task.isCheck) (s t : Session κ σ) :
    (task.perform K B t).result = (task.perform K B s).result := by
  cases task with
  | keyGen cv => cases ht
  | sigGen cv d g m => cases ht
  | keyVer cv qx qy => exact (hB.run_eq (callsOnly_checkKey cv qx qy) (by decide) _ _).1
  | sigVer cv d m qx qy r s' =>
    exact (hB.run_eq (callsOnly_checkSignature cv d m qx qy r s') (by decide) _ _).1

namespace TestCase

variable {c c' : TestCase} {K : KeyStore V κ} {B : Backend V σ}

lemma Resolved.isCheck {task : Task V} {q : List (Entry V)} (h : c.Resolved task q)
    (hm : c.mode = .keyVer ∨ c.mode = .sigVer) : task.isCheck := by
  cases h with
  | keyGen hm' cv => simp [hm'] at hm
  | sigGen hm' hh cv d => simp [hm'] at hm
  | keyVer hm' cv => rfl
  | sigVer hm' hh cv d => rfl

/-- Once its names are known, a check does not depend on the verdict that the case came with. -/
lemma run_withVerdict {s : Session κ σ} {task : Task V} (h : (s.run B c.task).result = .ok task)
    (ht : task.isCheck) (v : Verdict) : { c with verdict := v }.run K B s = c.run K B s := by
  have hbegin : { c with verdict := v }.begin task = c.begin task := by
    simp only [begin, ht, if_true]
  have h' : (s.run B { c with verdict := v }.task).result = .ok task := h
  cases hd : (task.perform K B (s.run B c.task).state).result with
  | error f =>
    rw [run_of_fault h hd, run_of_fault h' hd, hbegin]
    rfl
  | ok o =>
    rw [run_of_output h hd, run_of_output h' hd, hbegin]
    rfl

/-- What is left of a check is the case with a verdict, or the case itself where a name is not
known. -/
lemma case_run_of_check (hm : c.mode = .keyVer ∨ c.mode = .sigVer) (s : Session κ σ) :
    (∃ f, (s.run B c.task).result = .error f ∧ (c.run K B s).case = c) ∨
      ∃ task v, (s.run B c.task).result = .ok task ∧ task.isCheck ∧
        (c.run K B s).case = { c with verdict := v } := by
  cases hr : (s.run B c.task).result with
  | error f =>
    rw [run_of_unknown hr]
    exact .inl ⟨f, rfl, rfl⟩
  | ok task =>
    have hcheck := (resolved_of_result hr).isCheck hm
    have hbegin : c.begin task = { c with verdict := .fail } := if_pos hcheck
    refine .inr ⟨task, ?_⟩
    cases hd : (task.perform K B (s.run B c.task).state).result with
    | error f =>
      rw [run_of_fault hr hd]
      exact ⟨.fail, rfl, hcheck, hbegin⟩
    | ok o =>
      obtain ⟨v, rfl⟩ := Task.exists_verdict_of_check hcheck hd
      rw [run_of_output hr hd, hbegin]
      exact ⟨v, rfl, hcheck, rfl⟩

lemma run_of_uniform (hB : B.Uniform) (hm : c.mode = .keyVer ∨ c.mode = .sigVer)
    (s t : Session κ σ) :
    (c.run K B t).result = (c.run K B s).result ∧ (c.run K B t).case = (c.run K B s).case := by
  have hresult : (t.run B c.task).result = (s.run B c.task).result :=
    (hB.run_eq (callsOnly_task c) (by decide) s.backend t.backend).1
  cases hr : (s.run B c.task).result with
  | error f =>
    rw [run_of_unknown hr, run_of_unknown (hresult.trans hr)]
    exact ⟨rfl, rfl⟩
  | ok task =>
    have hr' := hresult.trans hr
    have hperform := Task.result_perform_of_uniform (K := K) hB
      ((resolved_of_result hr).isCheck hm) (s.run B c.task).state (t.run B c.task).state
    cases hd : (task.perform K B (s.run B c.task).state).result with
    | error f =>
      rw [run_of_fault hr hd, run_of_fault hr' (hperform.trans hd)]
      exact ⟨rfl, rfl⟩
    | ok o =>
      rw [run_of_output hr hd, run_of_output hr' (hperform.trans hd)]
      exact ⟨rfl, rfl⟩

lemma run_case_of_check (hB : B.Uniform) (hm : c.mode = .keyVer ∨ c.mode = .sigVer)
    (s t : Session κ σ) :
    ((c.run K B s).case.run K B t).result = (c.run K B s).result ∧
      ((c.run K B s).case.run K B t).case = (c.run K B s).case := by
  have hsame := run_of_uniform (K := K) hB hm s t
  rcases case_run_of_check (K := K) hm s with ⟨f, -, hcase⟩ | ⟨task, v, hr, hcheck, hcase⟩
  · rw [hcase] at hsame ⊢
    exact hsame
  · have hr' : (t.run B c.task).result = .ok task :=
      (hB.run_eq (callsOnly_task c) (by decide) s.backend t.backend).1.trans hr
    rw [hcase] at hsame ⊢
    rw [run_withVerdict hr' hcheck]
    exact hsame

/-- **A run reads the fields of its mode only**, on every backend.  Cases that agree on them are
run alike, and leave the same session.  Unless they ask for a signature they are also run alike
with different keys in the session, which they leave as they are.  And a check can be repeated,
where the answers of the backend do not depend on its state. -/
theorem run_of_inputs (B : Backend V σ) (K : KeyStore V κ) (h : c.inputs = c'.inputs) :
    (∀ s, (c.run K B s).SameWork (c'.run K B s) ∧
      (c.run K B s).session = (c'.run K B s).session) ∧
    (c.mode ≠ .sigGen → ∀ s s', s.backend = s'.backend →
      (c.run K B s).SameWork (c'.run K B s') ∧ (c.run K B s).session.keys = s.keys ∧
        (c'.run K B s').session.keys = s'.keys) ∧
    (B.Uniform → c.mode = .keyVer ∨ c.mode = .sigVer → ∀ s,
      let first := c.run K B s
      let second := first.case.run K B first.session
      second.result = first.result ∧ second.case = first.case) := by
  refine ⟨sameWork_of_inputs h, fun hm s s' hs => ?_, fun hB hm s => ?_⟩
  · obtain ⟨hwork, hkeys, -⟩ := sameWork_of_backend (K := K) (B := B) hm hs
    obtain ⟨-, -, hkeys'⟩ :=
      sameWork_of_backend (K := K) (B := B) (mode_eq_of_inputs h ▸ hm) hs
    exact ⟨hwork.trans (sameWork_of_inputs h s').1, hkeys, hkeys'⟩
  · exact run_case_of_check hB hm s _

end TestCase

namespace Reused

/-- The check of a signature in a case that has been used for other things before. -/
def case : TestCase := { Passing.case with group := 7, number := 9, d := [3], verdict := .pass }

/-- A source of random numbers. -/
def source : Entropy := { numbers := id }

/-- The slot with a key of the group of the case. -/
def kept : Slot FixedWidth.values :=
  ((Session.fresh source).fetch (.slot _) (.fixedWidth .standard) 7
    ⟨.p256, .standard .p256, .sha256⟩).state.keys

/-- The run of the case as it was before it has been used for other things. -/
def first : Report FixedWidth.values (Slot FixedWidth.values) Entropy :=
  Passing.case.run (.slot _) (.fixedWidth .standard) (.fresh source)

end Reused

/-- The check of a signature comes to the same in a case that has been used for other things,
with another key in the slot, and when it is repeated. -/
theorem run_of_inputs_of_reused :
    Passing.case.inputs = Reused.case.inputs ∧ Passing.case.mode = .sigVer ∧
      (Backend.fixedWidth .standard).Uniform ∧ Reused.kept.isSome ∧
      Reused.first.result = .ok () ∧
      Reused.first.SameWork
        (Reused.case.run (.slot _) (.fixedWidth .standard) ⟨Reused.kept, Reused.source⟩) ∧
      (Reused.first.case.run (.slot _) (.fixedWidth .standard) Reused.first.session).result =
        Reused.first.result ∧
      (Reused.first.case.run (.slot _) (.fixedWidth .standard) Reused.first.session).case =
        Reused.first.case := by
  have hinputs : Passing.case.inputs = Reused.case.inputs := rfl
  have hB : (Backend.fixedWidth .standard).Uniform := (FixedWidth.functional .standard).uniform
  obtain ⟨hkept, hok⟩ : Reused.kept.isSome ∧ Reused.first.result = .ok () := by
    decide +kernel
  obtain ⟨-, hkeys, hagain⟩ := TestCase.run_of_inputs (.fixedWidth .standard) (.slot _) hinputs
  have hwork := (hkeys (by decide) (.fresh Reused.source) ⟨Reused.kept, Reused.source⟩ rfl).1
  exact ⟨hinputs, rfl, hB, hkept, hok, hwork, hagain hB (.inr rfl) (.fresh Reused.source)⟩

end EcdsaVectors
