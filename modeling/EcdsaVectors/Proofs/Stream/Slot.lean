/-
The slot is what the history says.

The slot is not all that a session remembers, but it is all that it remembers of the keys; so
it can be asked which of the steps so far have made it what it is.  A step `Attempts` to get
the key of a group if its names are known.  The attempt fails if no key pair can be made, or
its public key or the coordinates of this cannot be told (`Moment.Fails`); a signature that
cannot be made afterwards is no failure of the attempt.

* `Moment.effect`: what a single step does to the slot, told by its requests;
* `Tells`: what is in the slot after the moments of a list, told by the last of the attempts,
  the last that did not fail and the last for which a key was to be made;
* `Session.tells_history`: this holds after each step of each stream.
-/
import EcdsaVectors.Scenario
import EcdsaVectors.Proofs.GroupKey.Making
import EcdsaVectors.Proofs.Stream.History
namespace EcdsaVectors

open Program

variable {α : Type} {V : Values} {σ : Type}

/-! ## The last of a kind -/

/-- The entry `a` is the last of the list that satisfies `P`, and `since` is what comes after
it. -/
def LastSuch (P : α → Prop) (l : List α) (a : α) (since : List α) : Prop :=
  P a ∧ (∃ before, l = before ++ a :: since) ∧ ∀ b ∈ since, ¬ P b

namespace LastSuch

variable {P : α → Prop} {l since : List α} {a b : α}

lemma new (h : P b) : LastSuch P (l ++ [b]) b [] :=
  ⟨h, ⟨l, rfl⟩, by simp⟩

lemma keep (h : LastSuch P l a since) (hb : ¬ P b) :
    LastSuch P (l ++ [b]) a (since ++ [b]) := by
  obtain ⟨ha, ⟨before, rfl⟩, hsince⟩ := h
  refine ⟨ha, ⟨before, by simp⟩, ?_⟩
  intro c hc
  rcases List.mem_append.1 hc with hc | hc
  · exact hsince c hc
  · obtain rfl := List.mem_singleton.1 hc
    exact hb

lemma of_append (h : LastSuch P (l ++ [b]) a since) (hb : ¬ P b) :
    ∃ since', since = since' ++ [b] ∧ LastSuch P l a since' := by
  obtain ⟨ha, ⟨before, hl⟩, hsince⟩ := h
  rcases List.eq_nil_or_concat since with rfl | ⟨since', c, rfl⟩
  · -- the new entry would be the last one itself
    obtain ⟨-, hab⟩ := List.append_inj' hl rfl
    obtain rfl : b = a := List.head_eq_of_cons_eq hab
    exact absurd ha hb
  · rw [List.concat_eq_append] at hl hsince ⊢
    rw [← List.cons_append, ← List.append_assoc] at hl
    obtain ⟨hbefore, hbc⟩ := List.append_inj' hl rfl
    obtain rfl : b = c := List.head_eq_of_cons_eq hbc
    exact ⟨since', rfl, ha, ⟨before, hbefore⟩,
      fun d hd => hsince d (List.mem_append_left _ hd)⟩

end LastSuch

/-! ## What a moment attempts -/

namespace Moment

/-- The moment asks for the key of the group `g`, to be made on `cv` if there is none: the
names are known, and they are looked up first. -/
def Attempts (m : Moment V σ) (g : UInt32) (cv : V.Curve) : Prop :=
  match m.step with
  | .run c => c.mode = .sigGen ∧ c.group = g ∧ ∃ name h, c.hash = some name ∧
      [.asked (.curve c.curve) (some cv), .asked (.digest name) (some h)] <+:
        requests m.report.trace
  | .fetch group C => group = g ∧ [.asked (.curve C) (some cv)] <+: requests m.report.trace
  | .release => False

/-- The moment is an attempt to get a key. -/
def IsAttempt (m : Moment V σ) : Prop := ∃ g cv, m.Attempts g cv

/-- The moment is an attempt that does not fail. -/
def Succeeds (m : Moment V σ) : Prop := m.IsAttempt ∧ ¬ Breaks m.report.trace

/-- The moment is an attempt that fails. -/
def Fails (m : Moment V σ) : Prop := m.IsAttempt ∧ Breaks m.report.trace

/-- The moment is an attempt for which a key is to be made. -/
def Misses (m : Moment V σ) : Prop := m.IsAttempt ∧ AsksForPair m.report.trace

end Moment

/-- What the moments of a list tell of the slot after them. -/
structure Tells (past : List (Moment V σ)) (slot : Slot V) : Prop where
  /-- The slot is filled if there is an attempt that did not fail, and after the last such one
  the key has not been released and no attempt has failed. -/
  filled : slot.isSome ↔ ∃ m since, LastSuch Moment.Succeeds past m since ∧
    ∀ n ∈ since, n.step ≠ .release ∧ ¬ n.Fails
  /-- It holds a key of the group of the last attempt. -/
  group : ∀ k ∈ slot, ∃ m since cv, LastSuch Moment.IsAttempt past m since ∧
    m.Attempts k.group cv
  /-- This key was made in the last attempt for which one was to be made, for the group and on
  the curve of this attempt. -/
  made : ∀ k ∈ slot, ∃ m since cv, LastSuch Moment.Misses past m since ∧
    m.Attempts k.group cv ∧ k.MadeIn cv m.report.trace

/-- The slot after the moments of a stream that has begun with none. -/
def slotAfter (past : List (Moment V σ)) : Slot V :=
  past.getLast?.bind fun m => m.report.session.keys

/-! ## What a moment does to the slot -/

namespace Moment

variable {m : Moment V σ} {before : Slot V}

/-- What a moment does to the slot that it finds, by its kind. -/
inductive Effect (m : Moment V σ) (before : Slot V) : Prop
  /-- It is neither an attempt nor a release, and leaves the slot as it is. -/
  | idle (hm : ¬ m.IsAttempt) (hr : m.step ≠ .release) (hk : m.report.session.keys = before)
  /-- It is a release, and empties the slot. -/
  | released (hr : m.step = .release) (hk : m.report.session.keys = none)
  /-- It is an attempt, and finds a key of the group. -/
  | reused {k : GroupKey V} {cv : V.Curve} (hm : m.Attempts k.group cv)
      (hb : ¬ Breaks m.report.trace) (ha : ¬ AsksForPair m.report.trace)
      (hbefore : before = some k) (hk : m.report.session.keys = some k)
  /-- It is an attempt that finds no key of the group, and makes one. -/
  | made {k : GroupKey V} {cv : V.Curve} (hm : m.Attempts k.group cv)
      (hb : ¬ Breaks m.report.trace) (ha : AsksForPair m.report.trace)
      (hbefore : before.find? k.group = none) (hmade : k.MadeIn cv m.report.trace)
      (hk : m.report.session.keys = some k)
  /-- It is an attempt that finds no key of the group, and cannot make one. -/
  | lost {g : UInt32} {cv : V.Curve} (hm : m.Attempts g cv) (hb : Breaks m.report.trace)
      (ha : AsksForPair m.report.trace) (hbefore : before.find? g = none)
      (hk : m.report.session.keys = none)

/-- An attempt does to the slot what fetching the key does, if it asks for nothing else that
has a part in the making of a key. -/
lemma effect_of_fetch {B : Backend V σ} {s : Session (Slot V) σ} {g : UInt32} {cv : V.Curve}
    {pre post : List (Entry V)} (hm : m.Attempts g cv)
    (hk : m.report.session.keys = (s.fetch (.slot V) B g cv).state.keys)
    (ht : requests m.report.trace =
      pre ++ requests (s.fetch (.slot V) B g cv).trace ++ post)
    (hpre : Quiet pre) (hpost : Quiet post) : m.Effect s.keys := by
  have hbreaks := breaks_iff ht hpre hpost
  have hasks := asksForPair_iff ht hpre hpost
  rcases s.fetch_slot_cases B g cv with ⟨k, rfl, hbefore, hkeys, hw⟩ | ⟨hbefore, r, hkeys, hw⟩
  · rw [hw] at hbreaks hasks
    exact .reused hm (mt hbreaks.1 not_breaks_nil) (mt hasks.1 not_asksForPair_nil) hbefore
      (hk.trans hkeys)
  · have ha := hasks.2 (GroupKey.asksForPair_of_generate hw)
    cases r with
    | error f =>
      exact .lost hm (hbreaks.2 (GroupKey.breaks_of_generate hw)) ha hbefore (hk.trans hkeys)
    | ok k =>
      obtain ⟨rfl, -⟩ := GroupKey.course_generate_ok hw
      exact .made hm (mt hbreaks.1 (GroupKey.not_breaks_of_generate hw)) ha hbefore
        (GroupKey.madeIn_of_generate ht hpre hpost hw) (hk.trans hkeys)

variable {B : Backend V σ} {s : Session (Slot V) σ}

lemma attempts_of_run {c : TestCase} {cv : V.Curve} {name : HashName} {d : V.Digest}
    {t : List (Entry V)} (hstep : m.step = .run c) (hm : c.mode = .sigGen)
    (hh : c.hash = some name) (ht : requests m.report.trace =
      [.asked (.curve c.curve) (some cv), .asked (.digest name) (some d)] ++ t) :
    m.Attempts c.group cv := by
  rw [Attempts, hstep, ht]
  exact ⟨hm, rfl, name, d, hh, List.prefix_append _ _⟩

lemma attempts_of_fetch {g : UInt32} {C : CurveName} {cv : V.Curve} {t : List (Entry V)}
    (hstep : m.step = .fetch g C)
    (ht : requests m.report.trace = [.asked (.curve C) (some cv)] ++ t) : m.Attempts g cv := by
  rw [Attempts, hstep, ht]
  exact ⟨rfl, List.prefix_append _ _⟩

lemma not_isAttempt_of_release (hstep : m.step = .release) : ¬ m.IsAttempt := by
  rintro ⟨g, cv, h⟩
  rw [Attempts, hstep] at h
  exact h

lemma not_isAttempt_of_mode {c : TestCase} (hstep : m.step = .run c) (hmode : c.mode ≠ .sigGen) :
    ¬ m.IsAttempt := by
  rintro ⟨g, cv, h⟩
  rw [Attempts, hstep] at h
  exact hmode h.1

/-- A case whose names are not known is no attempt. -/
lemma not_isAttempt_of_unresolved {c : TestCase} {f : Fault} {q : List (Entry V)}
    (hstep : m.step = .run c) (hq : c.Unresolved f q) (ht : requests m.report.trace = q) :
    ¬ m.IsAttempt := by
  rintro ⟨g, cv, h⟩
  rw [Attempts, hstep, ht] at h
  obtain ⟨-, -, name, d, hname, hprefix⟩ := h
  cases hq with
  | curve => simp at hprefix
  | noHash hm hh cv' => simp [hh] at hname
  | hash hm hh cv' => simp at hprefix

/-- A run is an attempt just where its case asks for a signature and comes to its task. -/
lemma isAttempt_run_iff {c : TestCase} (hstep : m.step = .run c)
    (h : m.report = (Step.run c).perform B s) :
    m.IsAttempt ↔ c.mode = .sigGen ∧ ∃ task, (s.run B c.task).result = .ok task := by
  have ht : m.report.trace = (c.run (.slot V) B s).trace := by rw [h]; rfl
  constructor
  · intro hattempt
    refine ⟨by_contra fun hm => not_isAttempt_of_mode hstep hm hattempt, ?_⟩
    cases hr : (s.run B c.task).result with
    | ok task => exact ⟨task, rfl⟩
    | error f =>
      refine absurd hattempt
        (not_isAttempt_of_unresolved hstep (TestCase.unresolved_of_result hr) ?_)
      rw [ht, TestCase.requests_run_of_unknown hr]
  · rintro ⟨hm, task, hr⟩
    have hrequests := TestCase.requests_run (K := .slot V) hr
    rw [← ht] at hrequests
    obtain ⟨q, hq⟩ : ∃ q, requests (s.run B c.task).trace = q := ⟨_, rfl⟩
    rw [hq] at hrequests
    have hresolved := hq ▸ TestCase.resolved_of_result hr
    cases hresolved with
    | keyGen hm' => cases hm'.symm.trans hm
    | keyVer hm' => cases hm'.symm.trans hm
    | sigVer hm' => cases hm'.symm.trans hm
    | sigGen hm' hh cv d => exact ⟨c.group, cv, attempts_of_run hstep hm hh hrequests⟩

lemma effect_of_resolved {c : TestCase} {task : Task V} {q : List (Entry V)}
    (hstep : m.step = .run c) (hq : c.Resolved task q)
    (ht : requests m.report.trace = q ++ requests (task.perform (.slot V) B s).trace)
    (hk : m.report.session.keys = (task.perform (.slot V) B s).state.keys) :
    m.Effect s.keys := by
  have hrelease : m.step ≠ .release := by
    rw [hstep]
    simp
  cases hq with
  | keyGen hm cv => exact .idle (not_isAttempt_of_mode hstep (by simp [hm])) hrelease hk
  | keyVer hm cv => exact .idle (not_isAttempt_of_mode hstep (by simp [hm])) hrelease hk
  | sigVer hm hh cv d => exact .idle (not_isAttempt_of_mode hstep (by simp [hm])) hrelease hk
  | @sigGen hm name hh cv d =>
    have hattempts : m.Attempts c.group cv := attempts_of_run hstep hm hh ht
    rw [Session.keys_perform_sigGen] at hk
    obtain ⟨post, hpost, hcalls⟩ := s.requests_perform_sigGen B c.group cv d c.message
    rw [hpost, ← List.append_assoc] at ht
    exact effect_of_fetch hattempts hk ht (by simp [Quiet]) (.of_calls hcalls (by simp))

/-- A step that fetches a key looks up its curve first, and goes on if it is known. -/
lemma perform_fetch_cases (B : Backend V σ) (s : Session (Slot V) σ) (g : UInt32)
    (C : CurveName) {r : StepReport V σ} (h : r = (Step.fetch g C).perform B s) :
    let u := (s.run B (Codec.lookUpCurve C)).trace
    (r.trace = u ∧ requests r.trace = [.asked (.curve C) none] ∧ r.session.keys = s.keys ∧
        ∃ f, r.result = .fetched (.error f)) ∨
      ∃ (cv : V.Curve) (t : Session (Slot V) σ), t.keys = s.keys ∧
        r.trace = u ++ (t.fetch (.slot V) B g cv).trace ∧
        requests r.trace = [.asked (.curve C) (some cv)] ++
          requests (t.fetch (.slot V) B g cv).trace ∧
        r.session = (t.fetch (.slot V) B g cv).state ∧
        r.result = .fetched (t.fetch (.slot V) B g cv).result := by
  intro u
  have hcourse : (Codec.lookUpCurve C).Course (requests u) (s.run B (Codec.lookUpCurve C)).result :=
    course_run B (Codec.lookUpCurve C) s.backend
  have hr : r =
      let o := (s.run B (Codec.lookUpCurve C)).andThen fun c t => t.fetch (.slot V) B g c
      ⟨.fetched o.result, o.state, o.trace⟩ := h
  cases hfound : (s.run B (Codec.lookUpCurve C)).result with
  | error f =>
    obtain ⟨hlookup, -⟩ := Codec.course_lookUpCurve_error.1 (hfound ▸ hcourse)
    rw [Outcome.andThen_of_error hfound] at hr
    rw [hr]
    exact .inl ⟨rfl, hlookup, rfl, f, rfl⟩
  | ok cv =>
    have hlookup := Codec.course_lookUpCurve_ok.1 (hfound ▸ hcourse)
    rw [Outcome.andThen_of_ok hfound] at hr
    rw [hr]
    refine .inr ⟨cv, (s.run B (Codec.lookUpCurve C)).state, rfl, rfl, ?_, rfl, rfl⟩
    rw [← hlookup]
    exact requests_append _ _

/-- A step whose curve is not known is no attempt. -/
lemma not_isAttempt_of_unknown {g : UInt32} {C : CurveName} (hstep : m.step = .fetch g C)
    (ht : requests m.report.trace = [.asked (.curve C) none]) : ¬ m.IsAttempt := by
  rintro ⟨g', cv, hm⟩
  rw [Attempts, hstep, ht] at hm
  simpa using hm.2

lemma effect_of_fetch_step {g : UInt32} {C : CurveName} (hstep : m.step = .fetch g C)
    (h : m.report = (Step.fetch g C).perform B s) : m.Effect s.keys := by
  rcases perform_fetch_cases B s g C h with ⟨-, ht, hk, -⟩ | ⟨cv, t, hkeys, -, ht, hk, -⟩
  · exact .idle (not_isAttempt_of_unknown hstep ht) (by simp [hstep]) hk
  · have hattempts := attempts_of_fetch hstep ht
    rw [← List.append_nil (_ ++ _)] at ht
    rw [← hkeys]
    exact effect_of_fetch hattempts (congrArg Session.keys hk) ht (by simp [Quiet])
      (by simp [Quiet])

/-- **What a moment does to the slot**, on any backend. -/
theorem effect (h : m.report = m.step.perform B s) : m.Effect s.keys := by
  cases hstep : m.step with
  | release =>
    rw [hstep] at h
    exact .released hstep (h ▸ Step.keys_release B s)
  | fetch g C =>
    rw [hstep] at h
    exact effect_of_fetch_step hstep h
  | run c =>
    rw [hstep] at h
    have ht : m.report.trace = (c.run (.slot V) B s).trace := by rw [h]; rfl
    have hk : m.report.session = (c.run (.slot V) B s).session := by rw [h]; rfl
    cases hr : (s.run B c.task).result with
    | error f =>
      refine .idle ?_ (by simp [hstep]) ?_
      · rw [isAttempt_run_iff hstep h, hr]
        rintro ⟨-, task, ⟨⟩⟩
      · rw [hk, TestCase.run_of_unknown hr]
        rfl
    | ok task =>
      exact effect_of_resolved (s := (s.run B c.task).state) hstep
        (TestCase.resolved_of_result hr) (ht ▸ TestCase.requests_run hr)
        (hk ▸ congrArg Session.keys (TestCase.session_run hr))

lemma Attempts.group_eq {g g' : UInt32} {cv cv' : V.Curve} (h : m.Attempts g cv)
    (h' : m.Attempts g' cv') : g = g' := by
  unfold Attempts at h h'
  cases hstep : m.step with
  | release =>
    rw [hstep] at h
    exact h.elim
  | fetch group C =>
    rw [hstep] at h h'
    exact h.1.symm.trans h'.1
  | run c =>
    rw [hstep] at h h'
    exact h.2.1.symm.trans h'.2.1

/-- A key is to be made in an attempt just where the slot holds none of the group. -/
lemma Effect.misses_iff (h : m.Effect before) {g : UInt32} {cv : V.Curve}
    (hm : m.Attempts g cv) : m.Misses ↔ before.find? g = none := by
  have hattempt : m.IsAttempt := ⟨g, cv, hm⟩
  cases h with
  | idle hno hr hk => exact absurd hattempt hno
  | released hr hk => exact absurd hattempt (not_isAttempt_of_release hr)
  | reused hm' hb ha hbefore hk =>
    obtain rfl := hm.group_eq hm'
    have hfind := Slot.find?_eq_some.2 ⟨hbefore, rfl⟩
    simp [Misses, ha, hfind]
  | made hm' hb ha hbefore hmade hk =>
    obtain rfl := hm.group_eq hm'
    simp [Misses, hattempt, ha, hbefore]
  | lost hm' hb ha hbefore hk =>
    obtain rfl := hm.group_eq hm'
    simp [Misses, hattempt, ha, hbefore]

end Moment

/-! ## What the history tells of the slot -/

namespace Tells

variable {past : List (Moment V σ)} {m : Moment V σ} {before : Slot V} {k : GroupKey V}
  {cv : V.Curve}

lemma nil : Tells ([] : List (Moment V σ)) none := by
  refine ⟨?_, by simp, by simp⟩
  simp [LastSuch]

lemma keep (h : Tells past before) (hm : ¬ m.IsAttempt) (hr : m.step ≠ .release) :
    Tells (past ++ [m]) before := by
  have hsucceeds : ¬ m.Succeeds := fun hs => hm hs.1
  have hfails : ¬ m.Fails := fun hf => hm hf.1
  have hmisses : ¬ m.Misses := fun hx => hm hx.1
  refine ⟨?_, ?_, ?_⟩
  · rw [h.filled]
    constructor
    · rintro ⟨a, since, ha, hsince⟩
      refine ⟨a, since ++ [m], ha.keep hsucceeds, ?_⟩
      intro n hn
      rcases List.mem_append.1 hn with hn | hn
      · exact hsince n hn
      · obtain rfl := List.mem_singleton.1 hn
        exact ⟨hr, hfails⟩
    · rintro ⟨a, since, ha, hsince⟩
      obtain ⟨since', rfl, ha'⟩ := ha.of_append hsucceeds
      exact ⟨a, since', ha', fun n hn => hsince n (List.mem_append_left _ hn)⟩
  · intro k hk
    obtain ⟨a, since, cv, ha, hcv⟩ := h.group k hk
    exact ⟨a, _, cv, ha.keep hm, hcv⟩
  · intro k hk
    obtain ⟨a, since, cv, ha, hcv, hmade⟩ := h.made k hk
    exact ⟨a, _, cv, ha.keep hmisses, hcv, hmade⟩

lemma empty (hm : m.step = .release ∨ m.Fails) (hsucceeds : ¬ m.Succeeds) :
    Tells (past ++ [m]) none := by
  refine ⟨?_, by simp, by simp⟩
  simp only [Option.isSome_none, Bool.false_eq_true, false_iff]
  rintro ⟨a, since, ha, hsince⟩
  -- the moment comes after the last attempt that did not fail
  obtain ⟨since', rfl, -⟩ := ha.of_append hsucceeds
  obtain ⟨hr, hf⟩ := hsince m (by simp)
  rcases hm with hm | hm
  · exact hr hm
  · exact hf hm

lemma fill (hm : m.Attempts k.group cv) (hb : ¬ Breaks m.report.trace)
    (hmade : ∃ a since cv, LastSuch Moment.Misses (past ++ [m]) a since ∧
      a.Attempts k.group cv ∧ k.MadeIn cv a.report.trace) :
    Tells (past ++ [m]) (some k) := by
  have hattempt : m.IsAttempt := ⟨k.group, cv, hm⟩
  refine ⟨?_, ?_, ?_⟩
  · simp only [Option.isSome_some, true_iff]
    exact ⟨m, [], .new ⟨hattempt, hb⟩, by simp⟩
  · rintro _ ⟨⟩
    exact ⟨m, [], cv, .new hattempt, hm⟩
  · rintro _ ⟨⟩
    exact hmade

/-- What is told of the slot before a moment and what the moment does to it tell of the slot
after it. -/
theorem step (h : Tells past before) (hm : m.Effect before) :
    Tells (past ++ [m]) m.report.session.keys := by
  cases hm with
  | idle hno hr hk =>
    rw [hk]
    exact h.keep hno hr
  | released hr hk =>
    rw [hk]
    refine .empty (.inl hr) ?_
    rintro ⟨⟨g, cv, hm⟩, -⟩
    rw [Moment.Attempts, hr] at hm
    exact hm
  | @reused k cv hm hb ha hbefore hk =>
    rw [hk]
    refine .fill hm hb ?_
    -- the key is the one that has been in the slot before
    obtain ⟨a, since, cv', ha', hcv', hmade⟩ := h.made k hbefore
    exact ⟨a, _, cv', ha'.keep fun hmiss => ha hmiss.2, hcv', hmade⟩
  | made hm hb ha hbefore hmade hk =>
    rw [hk]
    exact .fill hm hb ⟨m, [], _, .new ⟨⟨_, _, hm⟩, ha⟩, hm, hmade⟩
  | lost hm hb ha hbefore hk =>
    rw [hk]
    exact .empty (.inr ⟨⟨_, _, hm⟩, hb⟩) fun hs => hs.2 hb

end Tells

@[simp] lemma slotAfter_append (past : List (Moment V σ)) (m : Moment V σ) :
    slotAfter (past ++ [m]) = m.report.session.keys := by
  simp [slotAfter]

/-- The history goes on telling what is in the slot. -/
lemma Session.tells_history_from (B : Backend V σ) {s : Session (Slot V) σ}
    {past : List (Moment V σ)} (hpast : Tells past s.keys) (hslot : slotAfter past = s.keys)
    (curve : Option CurveName) (steps : List Step) {older newer : List (Moment V σ)}
    {m : Moment V σ} (h : s.history B curve steps = older ++ m :: newer) :
    Tells (past ++ older ++ [m]) m.report.session.keys ∧ m.Effect (slotAfter (past ++ older)) := by
  induction steps generalizing s curve past older with
  | nil => simp [Session.history] at h
  | cons step steps ih =>
    obtain ⟨n, hn, hreport⟩ : ∃ n : Moment V σ, n :: n.report.session.history B n.keptCurve steps =
        s.history B curve (step :: steps) ∧ n.report = n.step.perform B s :=
      ⟨⟨step, _, _⟩, rfl, rfl⟩
    have heffect : n.Effect s.keys := Moment.effect hreport
    rw [← hn] at h
    cases older with
    | nil =>
      obtain ⟨rfl, -⟩ := List.cons.inj h
      rw [List.append_nil, hslot]
      exact ⟨hpast.step heffect, heffect⟩
    | cons n' older =>
      obtain ⟨rfl, hnext⟩ := List.cons.inj h
      have hrest := ih (hpast.step heffect) (slotAfter_append past n) n.keptCurve hnext
      rw [List.append_cons past n older]
      exact hrest

/-- **The slot is what the history says.**  After each step of a stream that has begun with an
empty slot, on any backend, the slot is told by the moments up to this one (`Tells`).  A step
that is no attempt and no release leaves it as it was, and in an attempt a key is to be made
just where the slot was without one of the group. -/
theorem Session.tells_history (B : Backend V σ) (b : σ) (steps : List Step)
    {older newer : List (Moment V σ)} {m : Moment V σ}
    (h : (Session.fresh b).history B none steps = older ++ m :: newer) :
    Tells (older ++ [m]) m.report.session.keys ∧
      (¬ m.IsAttempt → m.step ≠ .release → m.report.session.keys = slotAfter older) ∧
      ∀ g cv, m.Attempts g cv → (m.Misses ↔ (slotAfter older).find? g = none) := by
  obtain ⟨htells, heffect⟩ := Session.tells_history_from B Tells.nil rfl none steps h
  refine ⟨htells, ?_, fun g cv hm => heffect.misses_iff hm⟩
  intro hm hr
  cases heffect with
  | idle hno hr' hk => exact hk
  | released hr' hk => exact absurd hr' hr
  | reused hm' hb ha hbefore hk => exact absurd ⟨_, _, hm'⟩ hm
  | made hm' hb ha hbefore hmade hk => exact absurd ⟨_, _, hm'⟩ hm
  | lost hm' hb ha hbefore hk => exact absurd ⟨_, _, hm'⟩ hm

namespace Lost

/-- A case that asks for a signature. -/
def case : TestCase :=
  { mode := .sigGen, group := 0, number := 1, curve := .p256, hash := some .sha256 }

/-- The moments of a stream of two attempts, for which there is one scalar only.  The first is
the run of a case, and the second a step that fetches a key. -/
def history : List (Moment BigInteger.values (Script × Entropy)) :=
  (Session.fresh ({ keys := [[3]] }, { numbers := id })).history Stage.bigInteger.scripted none
    [.run case, .fetch 7 .p384]

end Lost

/-- The history tells that the slot is empty after the second attempt, although the run of the
case has filled it. -/
theorem tells_history_of_lost :
    ∃ older m, Lost.history = older ++ m :: [] ∧ (∀ n ∈ older, n.IsAttempt) ∧
      (slotAfter older).isSome ∧ m.report.session.keys.isNone ∧
      Tells (older ++ [m]) m.report.session.keys ∧
      (¬ m.IsAttempt → m.step ≠ .release → m.report.session.keys = slotAfter older) ∧
      ∀ g cv, m.Attempts g cv → (m.Misses ↔ (slotAfter older).find? g = none) := by
  obtain ⟨m₀, m, h, hstep, hreport⟩ : ∃ m₀ m, Lost.history = [m₀] ++ m :: [] ∧
      m₀.step = .run Lost.case ∧ m₀.report = (Step.run Lost.case).perform Stage.bigInteger.scripted
        (Session.fresh ({ keys := [[3]] }, { numbers := id })) := ⟨_, _, rfl, rfl, rfl⟩
  -- the names in the case are known
  have hattempt : m₀.IsAttempt := (Moment.isAttempt_run_iff hstep hreport).2 ⟨rfl, _, rfl⟩
  obtain ⟨hbefore, hafter⟩ : (slotAfter (Lost.history.take 1)).isSome ∧
      (slotAfter Lost.history).isNone := by
    decide +kernel
  rw [h] at hbefore hafter
  rw [slotAfter_append] at hafter
  exact ⟨[m₀], m, h, by simp [hattempt], hbefore, hafter, Session.tells_history _ _ _ h⟩

end EcdsaVectors
