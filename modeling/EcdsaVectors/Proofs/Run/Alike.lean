/-
Running a case on two backends.

On faithful backends that both know the curve, or both do not, a check comes to the same in
everything that can be told of it: in the result, the case and the calls.  So does the making
of a key pair when both backends make the same one (`Backend.Faithful.run_alike`).

The two backends that there are draw private scalars from a source of random numbers.  If the
two sources draw the same, the same key pair is made (`sameResult_generateKeyPair`), and so
the backends agree on the curves that both know (`run_bigInteger_alike_fixedWidth`).
-/
import EcdsaVectors.Proofs.Backend.Common
import EcdsaVectors.Proofs.Backend.FixedWidth
import EcdsaVectors.Proofs.Run.Textbook
namespace EcdsaVectors

open Program

variable {V W : Values} {κ κ' σ τ : Type}

/-- Two reports of the same result, the same case and the same calls. -/
structure Report.Alike (r : Report V κ σ) (r' : Report W κ' τ) : Prop where
  result : r.result = r'.result
  case : r.case = r'.case
  calls : calls r.trace = calls r'.trace

lemma Task.Related.begin_eq {R : Correspondence V W} {task : Task V} {task' : Task W}
    (h : task.Related R task') (c : TestCase) : c.begin task = c.begin task' := by
  cases h <;> rfl

/-- One key pair is asked for in making a key, and this is what is asked first. -/
lemma asked_makeKey {B : Backend V σ} {cv cv' : V.Curve} {s : σ} {a : Except Fault V.KeyPair}
    (h : .asked (.generateKeyPair cv') a ∈ ((makeKey cv).run B s).trace) :
    cv' = cv ∧ a = (B.respond (.generateKeyPair cv) s).answer := by
  have hfirst : (requests ((makeKey cv).run B s).trace).head? =
      some (.asked (.generateKeyPair cv) (B.respond (.generateKeyPair cv) s).answer) := rfl
  obtain ⟨x, u, hu, hnot, -⟩ := course_makeKey (course_run B (makeKey cv) s)
  have hmem := mem_requests.2 h
  rw [hu] at hfirst hmem
  obtain rfl : x = _ := by simpa using hfirst
  rcases List.mem_cons.1 hmem with hhead | hlater
  · cases hhead
    exact ⟨rfl, rfl⟩
  · exact absurd (mem_methods hlater) hnot

namespace Backend.Faithful

variable {B : Backend V σ} {C : Backend W τ} {M : Meaning V} {N : Meaning W}
  {domains : CurveName → Domain} {knows knows' : CurveName → Bool}

section

variable (hB : B.Faithful M domains knows) (hC : C.Faithful N domains knows')

include hB hC

/-! ## Programs -/

/-- A program that looks up no curve, and makes no key pair and no signature, does the same on
both backends. -/
lemma alike_of_callsOnly {α β : Type} {P : α → β → Prop} {p : Program V α} {q : Program W β}
    (h : Program.Related (M.common N) P p q) {l : List Method} (hp : p.CallsOnly l)
    (hl : ∀ m ∈ [.curve, .generateKeyPair, .sign], m ∉ l) (s : σ) (t : τ) :
    (p.run B s).Alike P (q.run C t) := by
  refine h.alike fun m x x' a a' ha ha' hx => ?_
  have hm := hp.mem_of_asked ha
  obtain ⟨b, rfl⟩ := exists_respond_of_asked ha
  obtain ⟨b', rfl⟩ := exists_respond_of_asked ha'
  exact hB.related_answer hC b b' hx fun h => hl m h hm

lemma makeKey_alike {c : V.Curve} {c' : W.Curve} (hc : (M.common N).curve c c') {s : σ} {t : τ}
    (hmade : SameResult (Common M.keyPair N.keyPair)
      (B.respond (.generateKeyPair c) s).answer (C.respond (.generateKeyPair c') t).answer) :
    ((makeKey c).run B s).Alike Eq ((makeKey c').run C t) := by
  refine (related_makeKey hc).alike fun m x x' a a' ha ha' hx => ?_
  by_cases hm : m = .generateKeyPair
  · subst hm
    cases x with
    | generateKeyPair c₁ =>
      cases x' with
      | generateKeyPair c₁' =>
        obtain ⟨rfl, rfl⟩ := asked_makeKey ha
        obtain ⟨rfl, rfl⟩ := asked_makeKey ha'
        exact hmade
  · have hcalls := (keeps_makeKey c).ends.callsOnly.mem_of_asked ha
    obtain ⟨b, rfl⟩ := exists_respond_of_asked ha
    obtain ⟨b', rfl⟩ := exists_respond_of_asked ha'
    refine hB.related_answer hC b b' hx fun h => ?_
    simp only [List.mem_cons, List.not_mem_nil, or_false] at h
    rcases h with rfl | rfl | rfl
    · simp at hcalls
    · exact hm rfl
    · simp at hcalls

lemma task_alike {c : TestCase} (hk : knows c.curve = knows' c.curve) (s : σ) (t : τ) :
    ((c.task : Program V (Task V)).run B s).Alike (Task.Related (M.common N))
      (c.task.run C t) := by
  refine c.related_task.alike fun m x x' a a' ha ha' hx => ?_
  have hm := (TestCase.callsOnly_task c).mem_of_asked ha
  obtain ⟨b, hb⟩ := exists_respond_of_asked ha
  obtain ⟨b', rfl⟩ := exists_respond_of_asked ha'
  cases hx with
  | curve name =>
    obtain rfl := TestCase.curve_of_course (course_run B c.task s) (mem_requests.2 ha)
    exact hb ▸ hB.related_curve hC b b' hk
  | digest name => exact hb ▸ hB.related_answer hC b b' (.digest name) (by simp)
  | _ => simp at hm

lemma perform_alike (K : KeyStore V κ) (K' : KeyStore W κ') (s : Session κ σ)
    (t : Session κ' τ) {task : Task V} {task' : Task W} (h : task.Related (M.common N) task')
    (hsign : ∀ cv d g m, task ≠ .sigGen cv d g m)
    (hmade : ∀ cv cv', task = .keyGen cv → task' = .keyGen cv' →
      SameResult (Common M.keyPair N.keyPair)
        (B.respond (.generateKeyPair cv) s.backend).answer
        (C.respond (.generateKeyPair cv') t.backend).answer) :
    (task.perform K B s).Alike Eq (task'.perform K' C t) := by
  cases h with
  | keyGen hc =>
    obtain ⟨hresult, hcalls⟩ := hB.makeKey_alike hC hc (hmade _ _ rfl rfl)
    exact ⟨hresult, hcalls⟩
  | keyVer hc qx qy =>
    obtain ⟨hresult, hcalls⟩ := hB.alike_of_callsOnly hC (related_checkKey hc qx qy)
      (callsOnly_checkKey _ qx qy) (by simp) s.backend t.backend
    exact ⟨hresult, hcalls⟩
  | sigGen hc hh g m => exact absurd rfl (hsign _ _ g m)
  | sigVer hc hh m qx qy r s' =>
    obtain ⟨hresult, hcalls⟩ := hB.alike_of_callsOnly hC
      (related_checkSignature hc hh m qx qy r s') (callsOnly_checkSignature _ _ m qx qy r s')
      (by simp) s.backend t.backend
    exact ⟨hresult, hcalls⟩

/-! ## Runs -/

/-- **A case that asks for no signature is run alike** on faithful backends that both know its
curve, or both do not, if a key pair that they are to make is the same. -/
theorem run_alike (K : KeyStore V κ) (K' : KeyStore W κ') (s : Session κ σ) (t : Session κ' τ)
    {c : TestCase} (hk : knows c.curve = knows' c.curve) (hm : c.mode ≠ .sigGen)
    (hmade : c.mode = .keyGen → ∀ cv cv', M.curve cv (domains c.curve) →
      N.curve cv' (domains c.curve) → SameResult (Common M.keyPair N.keyPair)
        (B.respond (.generateKeyPair cv) (s.run B c.task).state.backend).answer
        (C.respond (.generateKeyPair cv') (t.run C c.task).state.backend).answer) :
    (c.run K B s).Alike (c.run K' C t) := by
  obtain ⟨hresult, hcalls⟩ : (s.run B c.task).Alike (Task.Related (M.common N))
      (t.run C c.task) := by
    obtain ⟨hresult, hcalls⟩ := hB.task_alike hC hk s.backend t.backend
    exact ⟨hresult, hcalls⟩
  cases hr : (s.run B c.task).result with
  | error f =>
    -- a name is not known, and then it is not known to the other backend either
    rw [hr] at hresult
    cases hr' : (t.run C c.task).result with
    | ok task' =>
      rw [hr'] at hresult
      cases hresult
    | error f' =>
      rw [hr'] at hresult
      cases hresult
      rw [TestCase.run_of_unknown hr, TestCase.run_of_unknown hr']
      exact ⟨rfl, rfl, by simp [TestCase.failed, TestCase.opening, hcalls]⟩
  | ok task =>
    rw [hr] at hresult
    cases hr' : (t.run C c.task).result with
    | error f' =>
      rw [hr'] at hresult
      cases hresult
    | ok task' =>
      rw [hr'] at hresult
      obtain ⟨htask⟩ := hresult
      -- the two tasks correspond, and are performed alike
      obtain ⟨hresult', hcalls'⟩ : (task.perform K B (s.run B c.task).state).Alike Eq
          (task'.perform K' C (t.run C c.task).state) := by
        have hof := (hB.taskOf_of_result hr).2
        have hof' := (hC.taskOf_of_result hr').2
        refine hB.perform_alike hC K K' _ _ htask ?_ ?_
        · rintro cv d g m rfl
          exact hm hof.1
        · rintro cv cv' rfl rfl
          exact hmade hof.1 cv cv' hof.2 hof'.2
      have hbegin := htask.begin_eq c
      cases hd : (task.perform K B (s.run B c.task).state).result with
      | error f =>
        rw [TestCase.run_of_fault hr hd, TestCase.run_of_fault hr' (hresult'.eq ▸ hd), hbegin]
        exact ⟨rfl, rfl, by simp [TestCase.failed, TestCase.opening, hcalls, hcalls']⟩
      | ok o =>
        rw [TestCase.run_of_output hr hd, TestCase.run_of_output hr' (hresult'.eq ▸ hd), hbegin]
        exact ⟨rfl, rfl, by simp [TestCase.opening, hcalls, hcalls']⟩

end

end Backend.Faithful

/-! ## The two backends -/

lemma sameResult_generateKeyPair {domains : CurveName → Domain} {D : Domain}
    {cv : FixedWidth.Curve} (hcv : FixedWidth.meaning.curve cv D) {E E' : Entropy}
    (h : (E.draw D.order).1 = (E'.draw D.order).1) :
    SameResult (Common BigInteger.meaning.keyPair FixedWidth.meaning.keyPair)
      ((Backend.bigInteger domains).respond (.generateKeyPair D) E).answer
      ((Backend.fixedWidth domains).respond (.generateKeyPair cv) E').answer := by
  obtain ⟨rfl, hw⟩ := hcv
  change SameResult _
    (Fault.keyGeneration.unless ((E.draw cv.domain.order).1.bind cv.domain.keyPair?))
    (Fault.keyGeneration.unless ((E'.draw cv.domain.order).1.bind (FixedWidth.keyPair? cv)))
  rw [← h]
  -- both make the key pair of the scalar that is drawn, if there is one
  cases (E.draw cv.domain.order).1 with
  | none => exact .error _
  | some d =>
    rw [Option.bind_some, Option.bind_some, FixedWidth.keyPair?]
    cases hp : cv.domain.keyPair? d with
    | none => exact .error _
    | some p =>
      obtain ⟨hD, hproper⟩ := Domain.proper_of_keyPair? hp
      exact .ok ⟨p, ⟨rfl, hproper⟩, rfl, hD.symm, hD ▸ hw, hproper⟩

lemma state_run_task_bigInteger {domains : CurveName → Domain} {c : TestCase}
    (h : c.mode = .keyGen) (s : Session κ Entropy) :
    (s.run (.bigInteger domains) c.task).state = s := by
  obtain ⟨mode, _⟩ := c
  obtain rfl : mode = .keyGen := h
  rfl

lemma state_run_task_fixedWidth {domains : CurveName → Domain} {c : TestCase}
    (h : c.mode = .keyGen) (s : Session κ Entropy) :
    (s.run (.fixedWidth domains) c.task).state = s := by
  obtain ⟨mode, _, _, curve⟩ := c
  obtain rfl : mode = .keyGen := h
  cases curve <;> rfl

/-- **The two backends agree** on every case that asks for no signature, on the curves that
both know: in the result, the case and the calls, whatever the case holds and whatever has
gone before.  For the making of a key pair it is asked that both draw the same private
scalar. -/
theorem run_bigInteger_alike_fixedWidth (K : KeyStore BigInteger.values κ)
    (K' : KeyStore FixedWidth.values κ') (s : Session κ Entropy) (t : Session κ' Entropy)
    (c : TestCase) (hc : c.curve = .p256 ∨ c.curve = .p384) (hm : c.mode ≠ .sigGen)
    (hd : c.mode = .keyGen → (s.backend.draw (Domain.standard c.curve).order).1 =
      (t.backend.draw (Domain.standard c.curve).order).1) :
    (c.run K (.bigInteger .standard) s).Alike (c.run K' (.fixedWidth .standard) t) := by
  have hknows : FixedWidth.knows c.curve = true := by
    rcases hc with h | h <;> rw [h] <;> rfl
  refine (BigInteger.faithful .standard).run_alike
    (FixedWidth.faithful fun _ => FixedWidth.wholeOctets_standard) K K' s t hknows.symm hm ?_
  rintro hmode cv cv' rfl hcv
  rw [state_run_task_bigInteger hmode, state_run_task_fixedWidth hmode]
  exact sameResult_generateKeyPair hcv (hd hmode)

/-- Both backends make the key pair of the scalar one, drawn at different places. -/
theorem run_alike_of_one :
    let c : TestCase := { mode := .keyGen, group := 0, number := 1, curve := .p384 }
    let E : Entropy := { numbers := id }
    let E' : Entropy := { numbers := fun _ => 0, drawn := 7 }
    (c.curve = .p256 ∨ c.curve = .p384) ∧ c.mode ≠ .sigGen ∧
      (E.draw (Domain.standard c.curve).order).1 = (E'.draw (Domain.standard c.curve).order).1 ∧
      (c.run (.slot _) (.bigInteger .standard) ⟨none, E⟩).Alike
        (c.run (.slot _) (.fixedWidth .standard) ⟨none, E'⟩) := by
  intro c E E'
  have hdraw : (E.draw (Domain.standard c.curve).order).1 =
      (E'.draw (Domain.standard c.curve).order).1 := by
    decide +kernel
  refine ⟨.inr rfl, by decide, hdraw, ?_⟩
  exact run_bigInteger_alike_fixedWidth _ _ _ _ _ (.inr rfl) (by decide) fun _ => hdraw

end EcdsaVectors
