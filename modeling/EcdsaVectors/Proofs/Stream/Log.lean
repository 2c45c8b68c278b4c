/-
The log tells the truth.

The events of a stream, read in order, tell all that is to be known of it: which runs have
failed and for what, which verdict each check has come to, and which group the key in the slot
belongs to after each step.  For the last no more is needed than the events of the slot, from
the empty slot on (`replay`).  This holds on each of the two backends, whichever of its
requests go wrong.

* `Moment.Notes`: what a single step does to the slot, and what it tells of it;
* `Moment.Truthful`: what the events of a step tell, after those of the steps before it;
* `Session.truthful_history`: they do so at each moment of each stream.
-/
import Mathlib.Data.List.Induction
import EcdsaVectors.Proofs.Backend.Falters
import EcdsaVectors.Proofs.Run.Reports
import EcdsaVectors.Proofs.Stream.Slot
namespace EcdsaVectors

open Program

variable {V : Values} {σ τ : Type}

/-! ## Reading the log -/

/-- The group of the key that is kept, after one more event. -/
def Event.replay (kept : Option UInt32) : Event → Option UInt32
  | groupKeyEvicted _ _ | groupKeyReleased _ => none
  | groupKeyGenerated g => some g
  | _ => kept

/-- The group of the key that is kept after the events of a log that has begun with none. -/
def replay (log : List Event) : Option UInt32 := log.foldl Event.replay none

lemma foldl_replay_filter (log : List Event) (kept : Option UInt32) :
    (log.filter Event.ofSlot).foldl Event.replay kept = log.foldl Event.replay kept := by
  induction log generalizing kept with
  | nil => rfl
  | cons e log ih =>
    cases e with
    | groupKeyReused | groupKeyEvicted | groupKeyGenerated | groupKeyReleased => exact ih _
    | _ => exact ih kept

/-- The group of the key in the slot. -/
def Slot.group? (slot : Slot V) : Option UInt32 := slot.map GroupKey.group

lemma Slot.foldl_replay_makeRoom (slot : Slot V) (g : UInt32) :
    (slot.makeRoom g).2.foldl Event.replay slot.group? = none := by
  cases slot <;> rfl

lemma Slot.foldl_replay_release (slot : Slot V) :
    slot.release.2.foldl Event.replay slot.group? = none := by
  cases slot <;> rfl

/-! ## What a step notes -/

namespace Moment

variable {m : Moment V σ} {before : Slot V} {l : List Event}

/-- What a moment does to the slot that it finds, and what it tells of it, by its kind. -/
inductive Notes (m : Moment V σ) (before : Slot V) : List Event → Prop
  /-- It is neither an attempt nor a release, and tells nothing. -/
  | idle (hm : ¬ m.IsAttempt) (hk : m.report.session.keys = before) : Notes m before []
  /-- It is a release, and tells of the key that has been there. -/
  | released (hr : m.step = .release) (hk : m.report.session.keys = none) :
    Notes m before before.release.2
  /-- It is an attempt that finds a key of the group, and tells of it. -/
  | reused {k : GroupKey V} {cv : V.Curve} (hm : m.Attempts k.group cv)
      (hbefore : before = some k) (hk : m.report.session.keys = some k) :
    Notes m before [.groupKeyReused k.group]
  /-- It is an attempt that finds no key of the group, and tells of the one that has been there
  and of the one that it makes. -/
  | made {k : GroupKey V} {cv : V.Curve} (hm : m.Attempts k.group cv)
      (hbefore : before.find? k.group = none) (hk : m.report.session.keys = some k) :
    Notes m before ((before.makeRoom k.group).2 ++ [.groupKeyGenerated k.group])
  /-- It is an attempt that finds no key of the group and cannot make one, and tells of the one
  that has been there. -/
  | lost {g : UInt32} {cv : V.Curve} (hm : m.Attempts g cv) (hbefore : before.find? g = none)
      (hk : m.report.session.keys = none) : Notes m before (before.makeRoom g).2

/-- What is told of the slot leads from the group before to the group after. -/
lemma Notes.replay (h : m.Notes before l) :
    l.foldl Event.replay before.group? = m.report.session.keys.group? := by
  cases h with
  | idle hm hk => rw [hk, List.foldl_nil]
  | released hr hk => rw [hk, Slot.foldl_replay_release]; rfl
  | reused hm hbefore hk => rw [hk, hbefore]; rfl
  | made hm hbefore hk => rw [hk, List.foldl_append, Slot.foldl_replay_makeRoom]; rfl
  | lost hm hbefore hk => rw [hk, Slot.foldl_replay_makeRoom]; rfl

/-- The moment asks for the key of the group `g`, and the slot holds it. -/
def Hits (m : Moment V σ) (before : Slot V) (g : UInt32) : Prop :=
  ∃ k cv, before = some k ∧ k.group = g ∧ m.Attempts g cv

/-- An attempt that finds no key of its group does not find one of another. -/
lemma Attempts.not_hits {g g' : UInt32} {cv : V.Curve} (hm : m.Attempts g cv)
    (hbefore : before.find? g = none) : ¬ m.Hits before g' := by
  rintro ⟨k, cv', rfl, rfl, hm'⟩
  have hfind : Slot.find? (some k) k.group = some k := Slot.find?_eq_some.2 ⟨rfl, rfl⟩
  rw [hm.group_eq hm', hfind] at hbefore
  cases hbefore

lemma not_reused_mem_makeRoom (before : Slot V) (g g' : UInt32) :
    .groupKeyReused g ∉ (before.makeRoom g').2 := by
  cases before <;> simp [Slot.makeRoom]

/-- A key is told of as used again just where it is found. -/
lemma Notes.reused_iff (h : m.Notes before l) (g : UInt32) :
    .groupKeyReused g ∈ l ↔ m.Hits before g := by
  cases h with
  | idle hm hk =>
    refine iff_of_false (by simp) ?_
    rintro ⟨k, cv, -, -, hm'⟩
    exact hm ⟨g, cv, hm'⟩
  | released hr hk =>
    refine iff_of_false (by cases before <;> simp [Slot.release]) ?_
    rintro ⟨k, cv, -, -, hm⟩
    rw [Attempts, hr] at hm
    exact hm
  | @reused k cv hm hbefore hk =>
    rw [List.mem_singleton, Event.groupKeyReused.injEq]
    constructor
    · rintro rfl
      exact ⟨k, cv, hbefore, rfl, hm⟩
    · rintro ⟨k', cv', -, -, hm'⟩
      exact hm'.group_eq hm
  | made hm hbefore hk =>
    refine iff_of_false ?_ (hm.not_hits hbefore)
    simp [not_reused_mem_makeRoom]
  | lost hm hbefore hk =>
    exact iff_of_false (not_reused_mem_makeRoom before _ _) (hm.not_hits hbefore)

variable {B : Backend V σ} {s : Session (Slot V) σ}

lemma notes_of_fetch (hB : B.Discreet) {g : UInt32} {cv : V.Curve} (hm : m.Attempts g cv)
    (hk : m.report.session.keys = (s.fetch (.slot V) B g cv).state.keys)
    (ht : slotEvents m.report.trace = slotEvents (s.fetch (.slot V) B g cv).trace) :
    m.Notes s.keys (slotEvents m.report.trace) := by
  rw [ht]
  cases hfind : s.keys.find? g with
  | some k =>
    obtain ⟨hkeys, rfl⟩ := Slot.find?_eq_some.1 hfind
    rw [Session.slotEvents_fetch_of_hit hfind]
    rw [Session.fetch_slot_of_hit hfind] at hk
    exact .reused hm hkeys (hk.trans hkeys)
  | none =>
    rw [Session.slotEvents_fetch_of_miss hB hfind]
    rw [Session.fetch_slot_of_miss hfind rfl] at hk
    cases hr : ((GroupKey.generate g cv).run B s.backend).result with
    | error f =>
      rw [hr] at hk
      rw [List.append_nil]
      exact .lost hm hfind hk
    | ok k =>
      rw [hr] at hk
      obtain rfl := GroupKey.group_of_generate hr
      exact .made hm hfind hk

lemma notes_of_resolved (hB : B.Discreet) {c : TestCase} {task : Task V} {q : List (Entry V)}
    (hstep : m.step = .run c) (hq : c.Resolved task q)
    (hrequests : requests m.report.trace = q ++ requests (task.perform (.slot V) B s).trace)
    (hk : m.report.session.keys = (task.perform (.slot V) B s).state.keys)
    (ht : slotEvents m.report.trace = slotEvents (task.perform (.slot V) B s).trace) :
    m.Notes s.keys (slotEvents m.report.trace) := by
  rw [Task.slotEvents_perform hB] at ht
  cases hq with
  | keyGen hm cv =>
    rw [ht]
    exact .idle (not_isAttempt_of_mode hstep (by simp [hm])) hk
  | keyVer hm cv =>
    rw [ht]
    exact .idle (not_isAttempt_of_mode hstep (by simp [hm])) hk
  | sigVer hm hh cv d =>
    rw [ht]
    exact .idle (not_isAttempt_of_mode hstep (by simp [hm])) hk
  | sigGen hm hh cv d =>
    rw [Session.keys_perform_sigGen] at hk
    exact notes_of_fetch hB (attempts_of_run hstep hm hh hrequests) hk ht

lemma notes_of_fetch_step (hB : B.Discreet) {g : UInt32} {C : CurveName}
    (hstep : m.step = .fetch g C) (h : m.report = (Step.fetch g C).perform B s) :
    m.Notes s.keys (slotEvents m.report.trace) := by
  have hsilent : slotEvents (s.run B (Codec.lookUpCurve C)).trace = [] :=
    ((Codec.keeps_lookUpCurve C).ends.candid hB).slotEvents_eq_nil s.backend
  rcases perform_fetch_cases B s g C h with
    ⟨ht, hrequests, hk, -⟩ | ⟨cv, t, hkeys, ht, hrequests, hk, -⟩
  · have hnone := not_isAttempt_of_unknown hstep hrequests
    rw [ht, hsilent]
    exact .idle hnone hk
  · rw [← hkeys]
    refine notes_of_fetch hB (attempts_of_fetch hstep hrequests) (congrArg Session.keys hk) ?_
    rw [ht, slotEvents_append, hsilent, List.nil_append]

/-- **What a step notes**, on a discreet backend. -/
theorem notes (hB : B.Discreet) (h : m.report = m.step.perform B s) :
    m.Notes s.keys (slotEvents m.report.trace) := by
  cases hstep : m.step with
  | release =>
    rw [hstep] at h
    have hevents : slotEvents m.report.trace = s.keys.release.2 := by
      rw [h]
      change slotEvents (s.keys.release.2.map .event) = s.keys.release.2
      rw [slotEvents_map_event]
      cases s.keys <;> rfl
    rw [hevents]
    exact .released hstep (h ▸ Step.keys_release B s)
  | fetch g C =>
    rw [hstep] at h
    exact notes_of_fetch_step hB hstep h
  | run c =>
    rw [hstep] at h
    have ht : m.report.trace = (c.run (.slot V) B s).trace := by rw [h]; rfl
    have hk : m.report.session = (c.run (.slot V) B s).session := by rw [h]; rfl
    cases hr : (s.run B c.task).result with
    | error f =>
      rw [ht, TestCase.slotEvents_run_of_unknown hB hr]
      refine .idle ?_ ?_
      · refine not_isAttempt_of_unresolved hstep (TestCase.unresolved_of_result hr) ?_
        rw [ht, TestCase.requests_run_of_unknown hr]
      · rw [hk, TestCase.run_of_unknown hr]
        rfl
    | ok task =>
      exact notes_of_resolved hB (s := (s.run B c.task).state) hstep
        (TestCase.resolved_of_result hr) (ht ▸ TestCase.requests_run hr)
        (hk ▸ congrArg Session.keys (TestCase.session_run hr))
        (ht ▸ TestCase.slotEvents_run hB hr)

/-! ## What the log tells -/

/-- What the events of a moment tell, after those of the moments before it. -/
structure Truthful (m : Moment V σ) (older : List (Moment V σ)) : Prop where
  /-- An error is reported just where a run fails. -/
  error_iff {r : Except Fault Unit} {c' : TestCase} (h : m.report.result = .ran r c') :
    (∃ e ∈ events m.report.trace, e.level = .error) ↔ ∃ f, r = .error f
  /-- A run that fails closes with its fault: the words of the last event are the sentence and
  the kind of the fault. -/
  failed {f : Fault} {c' : TestCase} (h : m.report.result = .ran (.error f) c') :
    ∃ e, (events m.report.trace).getLast? = some e ∧ e = .caseFailed f ∧ e.level = .error ∧
      e.words = ["test case failed", "error=" ++ f.message, "kind=" ++ f.kind.identifier]
  /-- A check that does not fail closes with the verdict that stands in the case, or it says
  that there is no valid key for the signature, and then it has failed it. -/
  checked {c c' : TestCase} (hc : m.step = .run c) (hm : c.mode = .keyVer ∨ c.mode = .sigVer)
      (h : m.report.result = .ran (.ok ()) c') :
    ∃ e, (events m.report.trace).getLast? = some e ∧
      (e = .verdictReached c'.verdict ∨
        c.mode = .sigVer ∧ e = .publicKeyInvalid ∧ c'.verdict = .fail)
  /-- The log so far tells the group of the key in the slot. -/
  replayed : replay ((older ++ [m]).flatMap fun n => events n.report.trace) =
    m.report.session.keys.group?
  /-- A key is told of as used again just where it is found, and by its group. -/
  reused (g : UInt32) :
    .groupKeyReused g ∈ events m.report.trace ↔ m.Hits (slotAfter older) g

end Moment

lemma Moment.exists_run {B : Backend V σ} {m : Moment V σ} {t : Session (Slot V) σ}
    (ht : m.report = m.step.perform B t) {r : Except Fault Unit} {c' : TestCase}
    (hr : m.report.result = .ran r c') :
    ∃ c : TestCase, m.step = .run c ∧ (c.run (.slot V) B t).result = r ∧
      (c.run (.slot V) B t).case = c' ∧ m.report.trace = (c.run (.slot V) B t).trace := by
  rw [ht] at hr
  cases hstep : m.step with
  | release =>
    rw [hstep] at hr
    cases hr
  | fetch g C =>
    rw [hstep] at hr
    cases hr
  | run c =>
    rw [hstep] at hr ht
    obtain ⟨hresult, hcase⟩ := StepResult.ran.inj hr
    exact ⟨c, rfl, hresult, hcase, congrArg StepReport.trace ht⟩

lemma Session.exists_of_history (B : Backend V σ) {s : Session (Slot V) σ}
    (past : List (Moment V σ)) (hslot : slotAfter past = s.keys) (curve : Option CurveName)
    (steps : List Step) {older newer : List (Moment V σ)} {m : Moment V σ}
    (h : s.history B curve steps = older ++ m :: newer) :
    ∃ t, m.report = m.step.perform B t ∧ t.keys = slotAfter (past ++ older) := by
  induction steps generalizing s curve past older with
  | nil => simp [Session.history] at h
  | cons step steps ih =>
    cases older with
    | nil =>
      obtain ⟨rfl, -⟩ := List.cons.inj h
      exact ⟨s, rfl, by rw [List.append_nil, hslot]⟩
    | cons n older =>
      obtain ⟨rfl, hnext⟩ := List.cons.inj h
      rw [List.append_cons]
      exact ih _ (slotAfter_append past _) _ hnext

/-- The log tells the group of the key in the slot. -/
lemma Session.replay_history {B : Backend V σ} (hB : B.Discreet) (b : σ) (steps : List Step)
    {older newer : List (Moment V σ)} (h : (fresh b).history B none steps = older ++ newer) :
    replay (older.flatMap fun n => events n.report.trace) = (slotAfter older).group? := by
  induction older using List.reverseRecOn generalizing newer with
  | nil => rfl
  | append_singleton older m ih =>
    rw [List.append_assoc] at h
    obtain ⟨t, ht, hkeys⟩ := exists_of_history B [] rfl none steps h
    have hnotes := (Moment.notes hB ht).replay
    rw [hkeys, slotEvents, foldl_replay_filter] at hnotes
    rw [slotAfter_append, ← hnotes, List.nil_append, ← ih h, replay, replay, List.flatMap_append,
      List.foldl_append]
    simp

/-- **The log tells the truth.**  On each of the two backends, whichever of its requests go
wrong, the events of each step of a stream that has begun with an empty slot tell whether the
run fails and for what, and if it is a check, which verdict it has come to; and with those of
the steps before they tell which group the key in the slot belongs to, and whether it has been
found there. -/
theorem Session.truthful_history {L : Library} {C : Backend L.values τ}
    (hC : C.Falters L.backend) (b : τ) (steps : List Step)
    {older newer : List (Moment L.values τ)} {m : Moment L.values τ}
    (h : (fresh b).history C none steps = older ++ m :: newer) : m.Truthful older := by
  have hdiscreet := Library.discreet_of_falters hC
  obtain ⟨t, ht, hkeys⟩ := exists_of_history C [] rfl none steps h
  have hnotes := Moment.notes hdiscreet ht
  rw [hkeys, List.nil_append] at hnotes
  exact
    { error_iff := by
        intro r c' hr
        obtain ⟨c, -, hresult, -, htrace⟩ := Moment.exists_run ht hr
        rw [htrace]
        cases r with
        | error f =>
          have hlast := TestCase.getLast?_events_run_error hresult
          exact iff_of_true ⟨_, List.mem_of_getLast? hlast, rfl⟩ ⟨f, rfl⟩
        | ok u =>
          refine iff_of_false ?_ (by rintro ⟨f, ⟨⟩⟩)
          rintro ⟨e, he, herror⟩
          exact TestCase.level_ne_error hdiscreet hresult e he herror
      failed := by
        intro f c' hr
        obtain ⟨c, -, hresult, -, htrace⟩ := Moment.exists_run ht hr
        rw [htrace]
        exact ⟨_, TestCase.getLast?_events_run_error hresult, rfl, rfl, rfl⟩
      checked := by
        intro c c' hc hm hr
        obtain ⟨c₀, hc₀, hresult, rfl, htrace⟩ := Moment.exists_run ht hr
        obtain rfl : c₀ = c := Step.run.inj (hc₀.symm.trans hc)
        rw [htrace]
        exact TestCase.getLast?_events_run_check hm hresult
      replayed := by
        rw [List.append_cons] at h
        rw [Session.replay_history hdiscreet b steps h, slotAfter_append]
      reused := by
        intro g
        rw [← hnotes.reused_iff g, slotEvents, List.mem_filter]
        exact (and_iff_left rfl).symm }

namespace Unsigned

/-- A case of the group one that asks for a signature. -/
def case : TestCase :=
  { mode := .sigGen, group := 1, number := 2, curve := .p256, hash := some .sha256 }

/-- The moments of a stream in which the key of the group is fetched, and the signing with it
goes wrong. -/
def history : List (Moment BigInteger.values (Script × Entropy)) :=
  (Session.fresh
    ({ keys := [[3]], plans := [⟨.sign, 1, .fault .signing⟩] }, { numbers := id })).history
      Stage.bigInteger.scripted none [.fetch 1 .p256, .run case]

end Unsigned

/-- The log tells that the key has been found, and that the signing has failed. -/
theorem truthful_history_of_unsigned :
    ∃ older m, Unsigned.history = older ++ m :: [] ∧
      Stage.bigInteger.scripted.Falters Library.bigInteger.backend ∧ m.Truthful older ∧
      events m.report.trace =
        [.caseOpened 1 2 .sigGen .p256, .groupKeyReused 1, .caseFailed .signing] := by
  obtain ⟨m₀, m, h⟩ : ∃ m₀ m, Unsigned.history = [m₀] ++ m :: [] := ⟨_, _, rfl⟩
  have hevents : (Unsigned.history.getLast?.map fun n => events n.report.trace) =
      some [.caseOpened 1 2 .sigGen .p256, .groupKeyReused 1, .caseFailed .signing] := by
    decide +kernel
  rw [h] at hevents
  exact ⟨[m₀], m, h, Stage.falters_bigInteger,
    Session.truthful_history (L := .bigInteger) Stage.falters_bigInteger _ _ h,
    Option.some.inj hevents⟩

end EcdsaVectors
