/-
The account of the key pairs.

Key pairs are made for two purposes: for a case that asks for one, and for the group of a
signature.  The two are never mixed up, and it can be told from the steps which pairs are made,
and for what.

* `Moment.Asked`: the requests of a moment for key pairs and scalars, on every backend;
* `Moment.Account`: what becomes of these, with what the moment finds in the slot;
* `Moment.account`: each step of a session keeps to it.
-/
import EcdsaVectors.Proofs.Run.Changes
import EcdsaVectors.Proofs.Stream.Slot
namespace EcdsaVectors

open Program

variable {V : Values} {σ : Type}

/-! ## The key pairs of a trace -/

/-- The key pair that is made, if the entry is a request for one with a pair as its answer. -/
def Entry.pair? : Entry V → Option V.KeyPair
  | .asked (.generateKeyPair _) (.ok pair) => some pair
  | _ => none

/-- The key pairs that are made in a trace, in order. -/
def generated (t : List (Entry V)) : List V.KeyPair := t.filterMap Entry.pair?

@[simp] lemma generated_append (t u : List (Entry V)) :
    generated (t ++ u) = generated t ++ generated u :=
  List.filterMap_append

lemma generated_eq_nil {t : List (Entry V)} (h : .generateKeyPair ∉ methods t) :
    generated t = [] := by
  rw [generated, List.filterMap_eq_nil_iff]
  intro e he
  cases e with
  | event e => rfl
  | asked q a =>
    cases q with
    | generateKeyPair cv => exact absurd (mem_methods he) h
    | _ => rfl

/-- If a key pair is asked for once, and one is made, it is the only one. -/
lemma generated_eq_singleton {t : List (Entry V)} {cv : V.Curve} {pair : V.KeyPair}
    (hcount : (methods t).count .generateKeyPair = 1)
    (hmem : .asked (.generateKeyPair cv) (.ok pair) ∈ t) : generated t = [pair] := by
  obtain ⟨u, v, rfl⟩ := List.append_of_mem hmem
  simp only [methods_append, methods_cons_asked, List.count_append, List.count_cons_self] at hcount
  have hu : .generateKeyPair ∉ methods u := List.count_eq_zero.1 (by omega)
  have hv : .generateKeyPair ∉ methods v := List.count_eq_zero.1 (by omega)
  rw [← List.singleton_append, generated_append, generated_append, generated_eq_nil hu,
    generated_eq_nil hv]
  rfl

lemma asksForPair_iff_mem {t : List (Entry V)} :
    AsksForPair t ↔ .generateKeyPair ∈ methods t := by
  constructor
  · rintro ⟨cv, a, h⟩
    exact mem_methods h
  · intro h
    obtain ⟨q, a, hmem⟩ := exists_of_mem_methods h
    cases q with
    | generateKeyPair cv => exact ⟨cv, a, hmem⟩

/-- The method has to do neither with the making of key pairs nor with their scalars. -/
def Method.Plain (x : Method) : Prop := x ≠ .generateKeyPair ∧ x ≠ .privateScalar

/-- The point that a step reports, if it succeeds. -/
def StepResult.point? : StepResult V → Option (Octets × Octets)
  | .ran (.ok ()) c => some (c.qx, c.qy)
  | .fetched (.ok f) => some (f.key.qx, f.key.qy)
  | _ => none

variable {B : Backend V σ} {s : Session (Slot V) σ} {m : Moment V σ} {before : Slot V}

namespace Moment

/-! ## What a moment asks for -/

/-- The moment runs a case that asks for a key pair, on a curve that is known. -/
def MakesKey (m : Moment V σ) : Prop :=
  ∃ c cv, m.step = .run c ∧ c.mode = .keyGen ∧
    [.asked (.curve c.curve) (some cv)] <+: requests m.report.trace

lemma not_makesKey_of_mode {c : TestCase} (hstep : m.step = .run c) (hm : c.mode ≠ .keyGen) :
    ¬ m.MakesKey := by
  rintro ⟨c', cv, hstep', hm', -⟩
  obtain rfl := Step.run.inj (hstep.symm.trans hstep')
  exact hm hm'

lemma not_makesKey_of_step (h : ∀ c, m.step ≠ .run c) : ¬ m.MakesKey := by
  rintro ⟨c, cv, hstep, -⟩
  exact h c hstep

/-- The requests of a moment for key pairs and their scalars. -/
inductive Asked (m : Moment V σ) : Prop
  /-- There are none. -/
  | nothing (hm : ¬ m.MakesKey) (hcalls : ∀ x ∈ methods m.report.trace, x.Plain)
  /-- One key pair is asked for after the curve, and no scalar but that of this pair. -/
  | key (hm : m.MakesKey) {C : CurveName} {cv : V.Curve} {x : Except Fault V.KeyPair}
      {u : List (Entry V)} (ht : requests m.report.trace =
        .asked (.curve C) (some cv) :: .asked (.generateKeyPair cv) x :: u)
      (hu : .generateKeyPair ∉ methods u)
      (hscalar : ∀ pair a, .asked (.privateScalar pair) a ∈ u → x = .ok pair)
  /-- One key pair is asked for at most, for a group, and no scalar. -/
  | group (hm : m.IsAttempt) (hcount : (methods m.report.trace).count .generateKeyPair ≤ 1)
      (hscalar : .privateScalar ∉ methods m.report.trace)

lemma asked_nothing (pre : List Method) {w l : List Method} (hm : ¬ m.MakesKey)
    (ht : methods m.report.trace = pre ++ w) (hpre : ∀ x ∈ pre, x.Plain) (hw : w ⊆ l)
    (hl : ∀ x ∈ l, x.Plain) : m.Asked := by
  refine .nothing hm fun x hx => ?_
  rw [ht] at hx
  rcases List.mem_append.1 hx with hx | hx
  · exact hpre x hx
  · exact hl x (hw hx)

/-- An attempt asks for what the making of a key asks for, and for other things before and
after. -/
lemma asked_group {pre w post l : List Method} (hm : m.IsAttempt)
    (ht : methods m.report.trace = pre ++ w ++ post) (hpre : ∀ x ∈ pre, x.Plain)
    (hw : w <+:
      [.generateKeyPair, .publicKey, .coordinates, .octetsOfInteger, .octetsOfInteger])
    (hpost : post ⊆ l) (hl : ∀ x ∈ l, x.Plain) : m.Asked := by
  have hnone : ∀ k : List Method, (∀ x ∈ k, x.Plain) → k.count .generateKeyPair = 0 :=
    fun k hk => List.count_eq_zero.2 fun h => (hk _ h).1 rfl
  have hpost' : ∀ x ∈ post, x.Plain := fun x hx => hl x (hpost hx)
  refine .group hm ?_ ?_
  · rw [ht, List.count_append, List.count_append, hnone pre hpre, hnone post hpost']
    simpa using hw.sublist.count_le .generateKeyPair
  · rw [ht]
    simp only [List.mem_append, not_or]
    refine ⟨⟨fun h => (hpre _ h).2 rfl, fun h => ?_⟩, fun h => (hpost' _ h).2 rfl⟩
    simpa using hw.subset h

lemma not_makesKey_of_unresolved {c : TestCase} {f : Fault} {q : List (Entry V)}
    (hstep : m.step = .run c) (hq : c.Unresolved f q) (ht : requests m.report.trace = q) :
    ¬ m.MakesKey := by
  cases hq with
  | curve =>
    rintro ⟨c', cv, hstep', -, hcurve⟩
    simp [ht] at hcurve
  | noHash hm hh cv => exact not_makesKey_of_mode hstep (by rcases hm with hm | hm <;> simp [hm])
  | hash hm hh cv => exact not_makesKey_of_mode hstep (by rcases hm with hm | hm <;> simp [hm])

lemma asked_of_resolved {c : TestCase} {task : Task V} {q : List (Entry V)}
    (hstep : m.step = .run c) (hq : c.Resolved task q)
    (ht : requests m.report.trace = q ++ requests (task.perform (.slot V) B s).trace) :
    m.Asked := by
  have hmethods := congrArg methods ht
  rw [methods_requests, methods_append] at hmethods
  cases hq with
  | keyGen hm cv =>
    obtain ⟨x, u, hu, hpair, hscalar⟩ := course_makeKey (course_run B (makeKey cv) s.backend)
    rw [Task.perform, Session.run, Outcome.mapState, hu] at ht
    exact .key ⟨c, cv, hstep, hm, ht ▸ List.prefix_append _ _⟩ ht hpair hscalar
  | keyVer hm cv =>
    exact asked_nothing _ (not_makesKey_of_mode hstep (by simp [hm])) hmethods
      (by simp [Method.Plain]) (callsOnly_checkKey cv c.qx c.qy _ _ (course_run B _ s.backend))
      (by simp [Method.Plain])
  | sigVer hm hh cv d =>
    exact asked_nothing _ (not_makesKey_of_mode hstep (by simp [hm])) hmethods
      (by simp [Method.Plain])
      (callsOnly_checkSignature cv d c.message c.qx c.qy c.r c.s _ _ (course_run B _ s.backend))
      (by simp [Method.Plain])
  | sigGen hm hh cv d =>
    have hattempt : m.IsAttempt := ⟨_, _, attempts_of_run hstep hm hh ht⟩
    obtain ⟨post, hpost, hcalls⟩ := s.requests_perform_sigGen B c.group cv d c.message
    rw [hpost, methods_append, methods_requests, ← List.append_assoc] at hmethods
    exact asked_group hattempt hmethods (by simp [Method.Plain]) (s.methods_fetch_slot B c.group cv)
      hcalls.subset (by simp [Method.Plain])

/-- **What a moment asks for**, on any backend. -/
theorem asked (h : m.report = m.step.perform B s) : m.Asked := by
  cases hstep : m.step with
  | release =>
    rw [hstep] at h
    have hnone : methods m.report.trace = [] := h ▸ methods_map_event _
    exact .nothing (not_makesKey_of_step (by simp [hstep])) (by simp [hnone])
  | fetch g C =>
    rw [hstep] at h
    rcases perform_fetch_cases B s g C h with ⟨-, ht, -⟩ | ⟨cv, t, -, -, ht, -⟩
    · have hmethods := congrArg methods ht
      rw [methods_requests] at hmethods
      exact .nothing (not_makesKey_of_step (by simp [hstep])) (by simp [hmethods, Method.Plain])
    · have hattempt : m.IsAttempt := ⟨g, cv, attempts_of_fetch hstep ht⟩
      have hmethods := congrArg methods ht
      rw [methods_requests, methods_append, methods_requests,
        ← List.append_nil (_ ++ _)] at hmethods
      exact asked_group hattempt hmethods (by simp [Method.Plain])
        (t.methods_fetch_slot B g cv) (List.nil_subset []) (by simp)
  | run c =>
    rw [hstep] at h
    have ht : requests m.report.trace = requests (c.run (.slot V) B s).trace := by
      rw [h]
      rfl
    cases hr : (s.run B c.task).result with
    | error f =>
      rw [TestCase.requests_run_of_unknown hr] at ht
      have hm := not_makesKey_of_unresolved hstep (TestCase.unresolved_of_result hr) ht
      refine asked_nothing [] hm ?_ (by simp)
        (TestCase.callsOnly_task c _ _ (course_run B c.task s.backend)) (by simp [Method.Plain])
      exact (methods_requests _).symm.trans (congrArg methods ht)
    | ok task =>
      exact asked_of_resolved hstep (TestCase.resolved_of_result hr)
        (ht.trans (TestCase.requests_run hr))

/-! ## What becomes of it -/

/-- A key pair is to be made: for the case that is run, or for a group whose key is not in the
slot. -/
def ToMake (m : Moment V σ) (before : Slot V) : Prop :=
  m.MakesKey ∨ ∃ g cv, m.Attempts g cv ∧ before.find? g = none

/-- What a moment makes of key pairs and scalars, with the slot that it finds. -/
structure Account (m : Moment V σ) (before : Slot V) : Prop where
  /-- One key pair is asked for if one is to be made. -/
  once (h : m.ToMake before) : (methods m.report.trace).count .generateKeyPair = 1
  /-- Otherwise none is asked for. -/
  never (h : ¬ m.ToMake before) : (methods m.report.trace).count .generateKeyPair = 0
  /-- Scalars are asked for only in the run of a case that asks for a key pair, and only that of
  the pair that is made in it. -/
  scalar {pair : V.KeyPair} {a : Except Fault V.Integer}
    (h : .asked (.privateScalar pair) a ∈ m.report.trace) :
    m.MakesKey ∧ generated m.report.trace = [pair]
  /-- A key that comes into the slot is that of an attempt, and its pair is the one that is made
  in it. -/
  filled {k : GroupKey V} (hk : m.report.session.keys = some k) (h : before ≠ some k) :
    (∃ cv, m.Attempts k.group cv) ∧ generated m.report.trace = [k.pair]
  /-- The scalar that is written into a case is that of the pair that is made in its run. -/
  written {c c' : TestCase} {r : Except Fault Unit} (hc : m.step = .run c)
    (hr : m.report.result = .ran r c') (h : c'.d ≠ c.d) :
    m.MakesKey ∧ ∃ pair i, generated m.report.trace = [pair] ∧
      .asked (.privateScalar pair) (.ok i) ∈ m.report.trace ∧
      .asked (.octetsOfInteger i) c'.d ∈ m.report.trace
  /-- The point that a successful attempt reports is that of the key in the slot. -/
  reported (h : m.IsAttempt) {q : Octets × Octets} (hq : m.report.result.point? = some q) :
    ∃ k, m.report.session.keys = some k ∧ q = (k.qx, k.qy)

lemma IsAttempt.not_makesKey (h : m.IsAttempt) : ¬ m.MakesKey := by
  obtain ⟨g, cv, h⟩ := h
  rintro ⟨c, cv', hstep, hm, -⟩
  rw [Attempts, hstep] at h
  cases hm.symm.trans h.1

lemma Effect.toMake_iff (h : m.Effect before) (hm : m.IsAttempt) :
    m.ToMake before ↔ .generateKeyPair ∈ methods m.report.trace := by
  obtain ⟨g, cv, hattempts⟩ := id hm
  have hmisses := h.misses_iff hattempts
  rw [Misses, and_iff_right hm, asksForPair_iff_mem] at hmisses
  rw [hmisses]
  constructor
  · rintro (hkey | ⟨g', cv', hattempts', hmiss⟩)
    · exact absurd hkey hm.not_makesKey
    · exact hattempts.group_eq hattempts' ▸ hmiss
  · exact fun hmiss => .inr ⟨g, cv, hattempts, hmiss⟩

namespace Asked

lemma count_of_makesKey (h : m.Asked) (hm : m.MakesKey) :
    (methods m.report.trace).count .generateKeyPair = 1 := by
  cases h with
  | nothing hno hcalls => exact absurd hm hno
  | group hattempt hcount hscalar => exact absurd hm hattempt.not_makesKey
  | key hm ht hu hscalar =>
    rw [← methods_requests, ht]
    simp [List.count_eq_zero.2 hu]

lemma count_of_toMake (h : m.Asked) (heffect : m.Effect before) (hm : m.ToMake before) :
    (methods m.report.trace).count .generateKeyPair = 1 := by
  rcases id hm with hkey | ⟨g, cv, hattempts, -⟩
  · exact h.count_of_makesKey hkey
  have hattempt : m.IsAttempt := ⟨g, cv, hattempts⟩
  have hmem := (heffect.toMake_iff hattempt).1 hm
  cases h with
  | nothing hno hcalls => exact absurd rfl (hcalls _ hmem).1
  | key hkey ht hu hscalar => exact absurd hkey hattempt.not_makesKey
  | group _ hcount hscalar => exact le_antisymm hcount (List.count_pos_iff.2 hmem)

lemma count_of_not_toMake (h : m.Asked) (heffect : m.Effect before) (hm : ¬ m.ToMake before) :
    (methods m.report.trace).count .generateKeyPair = 0 := by
  refine List.count_eq_zero.2 fun hmem => ?_
  cases h with
  | nothing hno hcalls => exact (hcalls _ hmem).1 rfl
  | key hkey ht hu hscalar => exact hm (.inl hkey)
  | group hattempt hcount hscalar => exact hm ((heffect.toMake_iff hattempt).2 hmem)

/-- A scalar that is asked for is that of the one pair that is made. -/
lemma scalar (h : m.Asked) {pair : V.KeyPair} {a : Except Fault V.Integer}
    (ha : .asked (.privateScalar pair) a ∈ m.report.trace) :
    m.MakesKey ∧ generated m.report.trace = [pair] := by
  have hcount := h.count_of_makesKey
  cases h with
  | nothing hno hcalls => exact absurd rfl (hcalls _ (mem_methods ha)).2
  | group hattempt hcount hscalar => exact absurd (mem_methods ha) hscalar
  | @key hm C cv x u ht hu hscalar =>
    rw [← mem_requests, ht] at ha
    obtain rfl := hscalar pair a (by simpa using ha)
    have hmade : .asked (.generateKeyPair cv) (.ok pair) ∈ m.report.trace := by
      rw [← mem_requests, ht]
      simp
    exact ⟨hm, generated_eq_singleton (hcount hm) hmade⟩

end Asked

/-- A key that comes into the slot is made in an attempt to get it. -/
lemma Effect.filled (h : m.Effect before) {k : GroupKey V}
    (hk : m.report.session.keys = some k) (hbefore : before ≠ some k) :
    (∃ cv, m.Attempts k.group cv) ∧ generated m.report.trace = [k.pair] := by
  cases h with
  | idle hm hr hkeys => exact absurd (hkeys.symm.trans hk) hbefore
  | released hr hkeys => cases hkeys.symm.trans hk
  | reused hm hb ha hkept hkeys =>
    obtain rfl := Option.some.inj (hkeys.symm.trans hk)
    exact absurd hkept hbefore
  | lost hm hb ha hmiss hkeys => cases hkeys.symm.trans hk
  | @made k' cv hm hb ha hmiss hmade hkeys =>
    obtain rfl := Option.some.inj (hkeys.symm.trans hk)
    obtain ⟨key, u, -, hpart⟩ := hmade.made
    have hmem := mem_requests.1 (hpart.subset List.mem_cons_self)
    exact ⟨⟨cv, hm⟩, generated_eq_singleton hmade.once hmem⟩

end Moment

/-! ## What is written into the cases -/

namespace TestCase

variable {c : TestCase}

lemma exists_of_d_ne (h : (c.run (.slot V) B s).case.d ≠ c.d) :
    ∃ pair i, .asked (.privateScalar pair) (.ok i) ∈ requests (c.run (.slot V) B s).trace ∧
      .asked (.octetsOfInteger i) (c.run (.slot V) B s).case.d ∈
        requests (c.run (.slot V) B s).trace := by
  cases hr : (s.run B c.task).result with
  | error f =>
    rw [run_of_unknown hr] at h
    exact absurd rfl h
  | ok task =>
    have hresolved := resolved_of_result hr
    cases hd : (task.perform (.slot V) B (s.run B c.task).state).result with
    | error f =>
      rw [run_of_fault hr hd] at h
      have hbegin : (c.begin task).d = c.d := by
        unfold begin
        split <;> rfl
      exact absurd hbegin h
    | ok o =>
      have hchanged := hresolved.changed_of_output hd
      have hcase : (c.run (.slot V) B s).case = (c.begin task).record o := by
        rw [run_of_output hr hd]
      rw [← requests_run hr, ← hcase] at hchanged
      generalize requests (c.run (.slot V) B s).trace = t at hchanged ⊢
      generalize (c.run (.slot V) B s).case = c' at hchanged h ⊢
      cases hchanged with
      | verdict hm v t => exact absurd rfl h
      | signature hm hh hgroup hk hafter => exact absurd rfl h
      | @key hm cv pair key i x y d qx qy => exact ⟨pair, i, by simp, by simp⟩

/-- A signature that is made is written with the point of the key in the slot. -/
lemma exists_key_of_ok (hm : c.mode = .sigGen) (h : (c.run (.slot V) B s).result = .ok ()) :
    ∃ k, (c.run (.slot V) B s).session.keys = some k ∧
      (c.run (.slot V) B s).case.qx = k.qx ∧ (c.run (.slot V) B s).case.qy = k.qy := by
  obtain ⟨task, o, htask, ho, hcase, hsession⟩ := exists_output h
  obtain ⟨q, hresolved⟩ : ∃ q, c.Resolved task q := ⟨_, resolved_of_result htask⟩
  rw [hcase, hsession]
  cases hresolved with
  | keyGen hm' cv => cases hm.symm.trans hm'
  | keyVer hm' cv => cases hm.symm.trans hm'
  | sigVer hm' hh cv d => cases hm.symm.trans hm'
  | sigGen hm' hh cv d =>
    obtain ⟨k, w, u, -, -, hu, -, hkeys⟩ := Session.perform_sigGen_ok ho
    obtain ⟨S, x, y, r, s', rfl, -⟩ := course_makeSignature_ok hu
    exact ⟨k, hkeys, rfl, rfl⟩

end TestCase

namespace Moment

/-- An attempt that succeeds reports the point of the key in the slot. -/
lemma exists_key_of_attempt (h : m.report = m.step.perform B s) (hm : m.IsAttempt)
    {q : Octets × Octets} (hq : m.report.result.point? = some q) :
    ∃ k, m.report.session.keys = some k ∧ q = (k.qx, k.qy) := by
  obtain ⟨g, cv, hm⟩ := hm
  cases hstep : m.step with
  | release => exact absurd ⟨_, _, hm⟩ (not_isAttempt_of_release hstep)
  | fetch g' C =>
    rw [hstep] at h
    rcases perform_fetch_cases B s g' C h with ⟨-, -, -, f, hr⟩ | ⟨cv', t, -, -, -, hk, hr⟩
    · rw [hr] at hq
      cases hq
    · rw [hr] at hq
      rw [hk]
      cases hf : (t.fetch (.slot V) B g' cv').result with
      | error f =>
        rw [hf] at hq
        cases hq
      | ok f =>
        rw [hf] at hq
        exact ⟨f.key, (Session.keys_fetch_slot hf).1, (Option.some.inj hq).symm⟩
  | run c =>
    rw [hstep] at h
    rw [Attempts, hstep] at hm
    rw [h] at hq ⊢
    change (StepResult.ran (V := V) (c.run (.slot V) B s).result _).point? = some q at hq
    cases hr : (c.run (.slot V) B s).result with
    | error f =>
      rw [hr] at hq
      cases hq
    | ok _ =>
      rw [hr] at hq
      obtain ⟨k, hk, hqx, hqy⟩ := TestCase.exists_key_of_ok hm.1 hr
      obtain rfl := Option.some.inj hq
      exact ⟨k, hk, Prod.ext hqx hqy⟩

/-- **Each step keeps to the account**, on any backend. -/
theorem account (h : m.report = m.step.perform B s) : m.Account s.keys where
  once hm := (asked h).count_of_toMake (effect h) hm
  never hm := (asked h).count_of_not_toMake (effect h) hm
  scalar ha := (asked h).scalar ha
  filled hk hbefore := (effect h).filled hk hbefore
  reported hm _ hq := exists_key_of_attempt h hm hq
  written {c c' r} hc hr hd := by
    have hasked := asked h
    rw [hc] at h
    obtain rfl : (c.run (.slot V) B s).case = c' := by
      rw [h] at hr
      exact (StepResult.ran.inj hr).2
    have ht : m.report.trace = (c.run (.slot V) B s).trace := by
      rw [h]
      rfl
    obtain ⟨pair, i, hscalar, hwritten⟩ := TestCase.exists_of_d_ne hd
    rw [← ht, mem_requests] at hscalar hwritten
    obtain ⟨hkey, hpair⟩ := hasked.scalar hscalar
    exact ⟨hkey, pair, i, hpair, hscalar, hwritten⟩

end Moment

end EcdsaVectors
