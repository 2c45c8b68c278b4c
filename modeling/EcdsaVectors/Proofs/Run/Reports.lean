/-
What a run reports.

The events of a run tell what it comes to.  If it fails it closes with the event that names the
fault, and if it is a check that does not fail, with one that tells the verdict, whatever the
backend is.  On a discreet backend no error is reported unless the run fails, and what is told
of the slot is what is told where a key is fetched.

* `Session.slotEvents_fetch_of_hit`, `Session.slotEvents_fetch_of_miss`: what is told where a
  key is fetched;
* `TestCase.slotEvents_run`: what a run tells of the slot is what its task tells;
* `TestCase.level_ne_error`: a run that does not fail reports no error;
* `TestCase.getLast?_events_run_error`, `TestCase.getLast?_events_run_check`: how a run closes.
-/
import EcdsaVectors.Proofs.Program.Reports
import EcdsaVectors.Proofs.GroupKey.Fetch
import EcdsaVectors.Proofs.Run.Course
namespace EcdsaVectors

open Program

variable {V : Values} {κ σ : Type} {B : Backend V σ}

/-! ## Fetching a key -/

lemma Slot.filter_makeRoom (slot : Slot V) (g : UInt32) :
    (slot.makeRoom g).2.filter Event.ofSlot = (slot.makeRoom g).2 := by
  cases slot <;> rfl

lemma Slot.level_of_mem_makeRoom {slot : Slot V} {g : UInt32} {e : Event}
    (h : e ∈ (slot.makeRoom g).2) : e.level ≠ .error := by
  cases slot with
  | none => cases h
  | some k =>
    obtain rfl := List.mem_singleton.1 h
    rintro ⟨⟩

lemma Session.slotEvents_fetch_of_hit {g : UInt32} {cv : V.Curve} {s : Session (Slot V) σ}
    {k : GroupKey V} (h : s.keys.find? g = some k) :
    slotEvents (s.fetch (.slot V) B g cv).trace = [.groupKeyReused g] := by
  rw [fetch_slot_of_hit h]
  rfl

section Discreet

variable (hB : B.Discreet)

include hB

namespace Session

variable {g : UInt32} {cv : V.Curve} {s : Session (Slot V) σ}

lemma slotEvents_fetch_of_miss (h : s.keys.find? g = none) :
    slotEvents (s.fetch (.slot V) B g cv).trace = (s.keys.makeRoom g).2 ++
      match ((GroupKey.generate g cv).run B s.backend).result with
      | .ok _ => [.groupKeyGenerated g]
      | .error _ => [] := by
  have hgenerate := (GroupKey.keeps_generate g cv).ends.candid hB
  rw [fetch_slot_of_miss h rfl, slotEvents_append, slotEvents_map_event, Slot.filter_makeRoom]
  cases hr : ((GroupKey.generate g cv).run B s.backend).result with
  | ok k => rw [hgenerate.told hr]
  | error f => rw [hgenerate.silent hr]

lemma calm_fetch (g : UInt32) (cv : V.Curve) (s : Session (Slot V) σ) :
    (s.fetch (.slot V) B g cv).Calm := by
  intro fetched hfetched e he
  cases hk : s.keys.find? g with
  | some k =>
    rw [fetch_slot_of_hit hk] at he
    obtain rfl := List.mem_singleton.1 he
    rintro ⟨⟩
  | none =>
    rw [fetch_slot_of_miss hk rfl] at hfetched he
    rw [events_append, events_map_event, List.mem_append] at he
    cases hr : ((GroupKey.generate g cv).run B s.backend).result with
    | error f =>
      rw [hr] at hfetched
      cases hfetched
    | ok k =>
      rcases he with he | he
      · exact Slot.level_of_mem_makeRoom he
      · exact ((GroupKey.keeps_generate g cv).ends.candid hB).calm _ k hr e he

end Session

/-! ## Performing a task -/

namespace Task

/-- A task reports an error only if it fails. -/
lemma calm_perform (task : Task V) (s : Session (Slot V) σ) :
    (task.perform (.slot V) B s).Calm := by
  cases task with
  | keyGen cv => exact ((keeps_makeKey cv).ends.candid hB).calm _
  | keyVer cv qx qy => exact ((ends_checkKey cv qx qy).candid hB).calm _
  | sigVer cv h m qx qy r s' => exact ((ends_checkSignature cv h m qx qy r s').candid hB).calm _
  | sigGen cv h g m =>
    exact (Session.calm_fetch hB g cv s).andThen fun fetched _ =>
      ((keeps_makeSignature fetched.key h m).ends.candid hB).calm _

/-- A task that asks for a signature tells of the slot what is told where its key is fetched, and
any other task tells nothing. -/
lemma slotEvents_perform (task : Task V) (s : Session (Slot V) σ) :
    slotEvents (task.perform (.slot V) B s).trace =
      match task with
      | .sigGen cv _ g _ => slotEvents (s.fetch (.slot V) B g cv).trace
      | _ => [] := by
  cases task with
  | keyGen cv => exact ((keeps_makeKey cv).ends.candid hB).slotEvents_eq_nil _
  | keyVer cv qx qy => exact ((ends_checkKey cv qx qy).candid hB).slotEvents_eq_nil _
  | sigVer cv h m qx qy r s' =>
    exact ((ends_checkSignature cv h m qx qy r s').candid hB).slotEvents_eq_nil _
  | sigGen cv h g m =>
    rw [perform]
    cases hf : (s.fetch (.slot V) B g cv).result with
    | error e => rw [Outcome.andThen_of_error hf]
    | ok fetched =>
      have hsigned : slotEvents ((s.fetch (.slot V) B g cv).state.run B
          (makeSignature fetched.key h m)).trace = [] :=
        ((keeps_makeSignature fetched.key h m).ends.candid hB).slotEvents_eq_nil _
      rw [Outcome.andThen_of_ok hf, Outcome.after, slotEvents_append, hsigned, List.append_nil]

end Task

/-! ## Running a case -/

namespace TestCase

variable {c : TestCase}

lemma slotEvents_run_of_unknown {K : KeyStore V κ} {s : Session κ σ} {f : Fault}
    (h : (s.run B c.task).result = .error f) : slotEvents (c.run K B s).trace = [] := by
  have hfound : slotEvents (s.run B c.task).trace = [] := ((keeps_task c).ends.candid hB).silent h
  rw [run_of_unknown h, failed, List.cons_append, opening, slotEvents_cons_of_not rfl,
    slotEvents_append, hfound]
  rfl

lemma slotEvents_run {K : KeyStore V κ} {s : Session κ σ} {task : Task V}
    (h : (s.run B c.task).result = .ok task) :
    slotEvents (c.run K B s).trace =
      slotEvents (task.perform K B (s.run B c.task).state).trace := by
  have hfound : slotEvents (s.run B c.task).trace = [] := ((keeps_task c).ends.candid hB).told h
  cases hd : (task.perform K B (s.run B c.task).state).result with
  | error f =>
    rw [run_of_fault h hd, failed, List.cons_append, opening, slotEvents_cons_of_not rfl,
      slotEvents_append, slotEvents_append, hfound]
    exact List.append_nil _
  | ok o =>
    rw [run_of_output h hd, opening, slotEvents_cons_of_not rfl, slotEvents_append, hfound,
      List.nil_append]

/-- **No error is reported in a run that does not fail.** -/
lemma level_ne_error {s : Session (Slot V) σ} (h : (c.run (.slot V) B s).result = .ok ()) :
    ∀ e ∈ events (c.run (.slot V) B s).trace, e.level ≠ .error := by
  obtain ⟨task, o, htask, ho, -, -⟩ := exists_output h
  intro e he
  rw [run_of_output htask ho, opening, events_cons_event, events_append, List.mem_cons,
    List.mem_append] at he
  rcases he with rfl | he | he
  · rintro ⟨⟩
  · exact ((keeps_task c).ends.candid hB).calm _ task htask e he
  · exact Task.calm_perform hB task _ o ho e he

end TestCase

end Discreet

/-! ## The last event -/

lemma closes_checkKey (cv : V.Curve) (qx qy : Octets) :
    Closes B (checkKey cv qx qy) fun o e => ∃ v, o = .verdict v ∧ e = .verdictReached v :=
  .bind fun _ => .report ⟨_, rfl, rfl⟩

/-- The check of a signature closes with its verdict, or says that there is no valid key. -/
lemma closes_checkSignature (cv : V.Curve) (h : V.Digest) (m qx qy r s : Octets) :
    Closes B (checkSignature cv h m qx qy r s) fun o e =>
      ∃ v, o = .verdict v ∧ (e = .verdictReached v ∨ e = .publicKeyInvalid ∧ v = .fail) := by
  refine .bind fun S => .bind fun k? => ?_
  cases k? with
  | none => exact .report ⟨_, rfl, .inr ⟨rfl, rfl⟩⟩
  | some key => exact .bind fun valid => .report ⟨_, rfl, .inl rfl⟩

namespace TestCase

variable {K : KeyStore V κ} {c : TestCase} {s : Session κ σ}

lemma getLast?_events_failed (c : TestCase) (f : Fault) (s : Session κ σ) (t : List (Entry V)) :
    (events (c.failed f s t).trace).getLast? = some (.caseFailed f) := by
  rw [failed, events_append]
  exact List.getLast?_concat

/-- **A run that fails closes with its fault**, on any backend. -/
lemma getLast?_events_run_error {f : Fault} (h : (c.run K B s).result = .error f) :
    (events (c.run K B s).trace).getLast? = some (.caseFailed f) := by
  cases hr : (s.run B c.task).result with
  | error f' =>
    rw [run_of_unknown hr] at h ⊢
    obtain rfl : f' = f := Except.error.inj h
    exact getLast?_events_failed ..
  | ok task =>
    cases hd : (task.perform K B (s.run B c.task).state).result with
    | error f' =>
      rw [run_of_fault hr hd] at h ⊢
      obtain rfl : f' = f := Except.error.inj h
      exact getLast?_events_failed ..
    | ok o =>
      rw [run_of_output hr hd] at h
      cases h

/-- **A check that does not fail closes with its verdict**, or says that there is no valid key
for the signature. -/
lemma getLast?_events_run_check (hm : c.mode = .keyVer ∨ c.mode = .sigVer)
    (h : (c.run K B s).result = .ok ()) :
    ∃ e, (events (c.run K B s).trace).getLast? = some e ∧
      (e = .verdictReached (c.run K B s).case.verdict ∨
        c.mode = .sigVer ∧ e = .publicKeyInvalid ∧ (c.run K B s).case.verdict = .fail) := by
  obtain ⟨task, o, htask, ho, hcase, -⟩ := exists_output h
  -- the last event of the task is the last one of the run
  have hlast : ∀ e, (events (task.perform K B (s.run B c.task).state).trace).getLast? = some e →
      (events (c.run K B s).trace).getLast? = some e := by
    intro e he
    rw [run_of_output htask ho, opening, events_cons_event, events_append, List.getLast?_cons,
      List.getLast?_append, he]
    rfl
  have hresolved := resolved_of_result htask
  generalize requests (s.run B c.task).trace = q at hresolved
  rw [hcase]
  cases hresolved with
  | keyGen hm' cv => simp [hm'] at hm
  | sigGen hm' hh cv d => simp [hm'] at hm
  | keyVer hm' cv =>
    obtain ⟨e, he, v, rfl, rfl⟩ :=
      closes_checkKey (B := B) cv c.qx c.qy (s.run B c.task).state.backend o ho
    exact ⟨_, hlast _ he, .inl rfl⟩
  | sigVer hm' hh cv d =>
    obtain ⟨e, he, v, rfl, hv⟩ := closes_checkSignature (B := B) cv d c.message c.qx c.qy c.r c.s
      (s.run B c.task).state.backend o ho
    refine ⟨e, hlast _ he, ?_⟩
    rcases hv with rfl | ⟨rfl, rfl⟩
    · exact .inl rfl
    · exact .inr ⟨hm', rfl, rfl⟩

end TestCase

end EcdsaVectors
