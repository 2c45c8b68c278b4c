/-
The history of a session.

A session remembers the key that is in the slot, but not on which curve it was made.  The
`history` of a stream does: beside each step and its report it keeps the curve that was named
by the step that filled the slot.  The key in the slot has always been made on this curve
(`Session.kept_history`), whatever the steps are and whichever of them fail.  It is the curve
that belongs to the group if there is one for each group, and no step names another
(`Session.keptCurve_history`).
-/
import EcdsaVectors.Stream
import EcdsaVectors.Proofs.GroupKey.Fetch
import EcdsaVectors.Proofs.Run.Course
import EcdsaVectors.Proofs.Run.Textbook
import EcdsaVectors.Proofs.Stream.Cases
namespace EcdsaVectors

open Program

variable {V : Values} {σ : Type}

/-- The curve that a step names. -/
def Step.curve? : Step → Option CurveName
  | run c => some c.curve
  | fetch _ curve => some curve
  | release => none

/-- The curve of the step that filled the slot, after one more step.  This is the step
itself if the slot did not hold a key of the group before. -/
def Step.keptCurve (step : Step) (before after : Slot V) (curve : Option CurveName) :
    Option CurveName :=
  match after with
  | none => none
  | some k => if (before.find? k.group).isSome then curve else step.curve?

/-- A step that has been performed. -/
structure Moment (V : Values) (σ : Type) where
  step : Step
  report : StepReport V σ
  /-- The curve of the step that filled the slot, if the slot is filled now. -/
  keptCurve : Option CurveName

/-- The moments of a stream, one after the other. -/
def Session.history (B : Backend V σ) (s : Session (Slot V) σ) (curve : Option CurveName) :
    List Step → List (Moment V σ)
  | [] => []
  | step :: steps =>
    let report := step.perform B s
    let curve' := step.keptCurve s.keys report.session.keys curve
    ⟨step, report, curve'⟩ :: report.session.history B curve' steps

lemma Session.history_map_step (B : Backend V σ) (s : Session (Slot V) σ)
    (curve : Option CurveName) (steps : List Step) :
    (s.history B curve steps).map Moment.step = steps := by
  induction steps generalizing s curve with
  | nil => rfl
  | cons step steps ih => exact congrArg (List.cons _) (ih _ _)

/-! ## What a step leaves -/

lemma Step.session_fetch (B : Backend V σ) (s : Session (Slot V) σ) (group : UInt32)
    (curve : CurveName) :
    (perform B s (.fetch group curve)).session =
      ((s.run B (Codec.lookUpCurve curve)).andThen fun c s =>
        s.fetch (.slot V) B group c).state := rfl

lemma Step.keys_release (B : Backend V σ) (s : Session (Slot V) σ) :
    (perform B s .release).session.keys = none := by
  unfold perform Slot.release
  cases s.keys <;> rfl

/-- The group for which a step asks a key, if it asks for one. -/
def Step.group? : Step → Option UInt32
  | run c => if c.mode = .sigGen then some c.group else none
  | fetch group _ => some group
  | release => none

/-- A key that a backend has made on the curve of a name. -/
def GroupKey.MadeBy (B : Backend V σ) (C : CurveName) (k : GroupKey V) : Prop :=
  ∃ cv, (∃ b, ((Codec.lookUpCurve C).run B b).result = .ok cv) ∧
    ∃ b, ((GroupKey.generate k.group cv).run B b).result = .ok k

/-- The task of making a signature is that of a case that asks for one, for the group and on
the curve of the case. -/
lemma TestCase.sigGen_of_result {B : Backend V σ} {c : TestCase} {s : Session (Slot V) σ}
    {cv : V.Curve} {h : V.Digest} {group : UInt32} {m : Octets}
    (hr : (s.run B c.task).result = .ok (.sigGen cv h group m)) :
    (Step.run c).group? = some group ∧
      ∃ b, ((Codec.lookUpCurve c.curve).run B b).result = .ok cv := by
  obtain ⟨u, hu⟩ : ∃ u, requests (s.run B c.task).trace = u := ⟨_, rfl⟩
  have hresolved := hu ▸ resolved_of_result hr
  cases hresolved with
  | sigGen hm hh =>
    have hasked : .asked (.curve c.curve) (some cv) ∈ (c.task.run B s.backend).trace :=
      mem_requests.1 (hu ▸ List.mem_cons_self)
    obtain ⟨b, hb⟩ := exists_respond_of_asked hasked
    exact ⟨if_pos hm, b, Codec.result_lookUpCurve hb⟩

/-- **What a step can do to the slot**: leave it, empty it, or fill it with a key of the group
for which it asks, made on the curve that it names, if there was none. -/
theorem Step.keys_cases (B : Backend V σ) (s : Session (Slot V) σ) (step : Step) :
    (step.perform B s).session.keys = s.keys ∨ (step.perform B s).session.keys = none ∨
      ∃ k C, (step.perform B s).session.keys = some k ∧ step.group? = some k.group ∧
        step.curve? = some C ∧ s.keys.find? k.group = none ∧ k.MadeBy B C := by
  cases step with
  | release => exact .inr (.inl (keys_release B s))
  | fetch group C =>
    rw [session_fetch]
    cases hr : (s.run B (Codec.lookUpCurve C)).result with
    | error f =>
      rw [Outcome.andThen_of_error hr]
      exact .inl rfl
    | ok cv =>
      rw [Outcome.andThen_of_ok hr]
      rcases Session.keys_fetch_cases B (s.run B (Codec.lookUpCurve C)).state group cv with
        h | h | ⟨k, h, rfl, hk, hmade⟩
      · exact .inl h
      · exact .inr (.inl h)
      · exact .inr (.inr ⟨k, C, h, rfl, rfl, hk, cv, ⟨s.backend, hr⟩, hmade⟩)
  | run c =>
    change (c.run (.slot V) B s).session.keys = _ ∨ (c.run (.slot V) B s).session.keys = _ ∨
      ∃ k C, (c.run (.slot V) B s).session.keys = _ ∧ _
    cases hr : (s.run B c.task).result with
    | error f =>
      rw [TestCase.run_of_unknown hr]
      exact .inl rfl
    | ok task =>
      rw [TestCase.session_run hr]
      cases task with
      | keyGen cv => exact .inl rfl
      | keyVer cv qx qy => exact .inl rfl
      | sigVer cv h' m qx qy r s => exact .inl rfl
      | sigGen cv h' group m =>
        -- signing leaves the slot as fetching has left it
        rw [Session.keys_perform_sigGen]
        obtain ⟨hgroup, hcv⟩ := TestCase.sigGen_of_result hr
        rcases Session.keys_fetch_cases B (s.run B c.task).state group cv with
          h | h | ⟨k, h, rfl, hk, hmade⟩
        · exact .inl h
        · exact .inr (.inl h)
        · exact .inr (.inr ⟨k, c.curve, h, hgroup, rfl, hk, cv, hcv, hmade⟩)

lemma Step.keptCurve_self (step : Step) (k : GroupKey V) (curve : Option CurveName) :
    step.keptCurve (some k) (some k) curve = curve := by
  have hfind : Slot.find? (some k) k.group = some k := Slot.find?_eq_some.2 ⟨rfl, rfl⟩
  rw [keptCurve, hfind]
  rfl

lemma Step.keptCurve_of_miss {step : Step} {keys : Slot V} {k : GroupKey V}
    (h : keys.find? k.group = none) (curve : Option CurveName) :
    step.keptCurve keys (some k) curve = step.curve? := by
  rw [keptCurve, h]
  rfl

/-! ## The key in the slot -/

/-- The key in the slot is one that has been made on the given curve; or the slot is empty,
and no curve is given. -/
def Slot.Kept (B : Backend V σ) : Slot V → Option CurveName → Prop :=
  Option.Rel fun k C => k.MadeBy B C

lemma Slot.Kept.fresh {B : Backend V σ} (b : σ) :
    Slot.Kept B (Session.fresh b).keys none := .none

lemma Step.kept_perform {B : Backend V σ} {s : Session (Slot V) σ} {curve : Option CurveName}
    (h : s.keys.Kept B curve) (step : Step) :
    Slot.Kept B (step.perform B s).session.keys
      (step.keptCurve s.keys (step.perform B s).session.keys curve) := by
  rcases step.keys_cases B s with hkeys | hkeys | ⟨k, C, hkeys, -, hC, hmiss, hmade⟩
  · rw [hkeys]
    cases hk : s.keys with
    | none => exact .none
    | some k =>
      rw [hk] at h
      rw [Step.keptCurve_self]
      exact h
  · rw [hkeys]
    exact .none
  · rw [hkeys, Step.keptCurve_of_miss hmiss, hC]
    exact .some hmade

/-- **The key in the slot has been made on the curve that the history tells**, at every moment
and on any backend. -/
theorem Session.kept_history {B : Backend V σ} {s : Session (Slot V) σ}
    {curve : Option CurveName} (h : s.keys.Kept B curve) (steps : List Step) :
    ∀ m ∈ s.history B curve steps, m.report.session.keys.Kept B m.keptCurve := by
  induction steps generalizing s curve with
  | nil => simp [Session.history]
  | cons step steps ih =>
    have hstep := Step.kept_perform h step
    intro m hm
    rcases List.mem_cons.1 hm with rfl | hm
    · exact hstep
    · exact ih hstep m hm

/-! ## Streams with one curve for each group -/

/-- A stream whose steps name one curve for each group. -/
def CurveByGroup (curves : UInt32 → CurveName) (steps : List Step) : Prop :=
  ∀ step ∈ steps, ∀ g, step.group? = some g → step.curve? = some (curves g)

lemma Step.keptCurve_perform (B : Backend V σ) {s : Session (Slot V) σ}
    {curves : UInt32 → CurveName} {curve : Option CurveName}
    (h : curve = s.keys.map (curves ·.group)) {step : Step}
    (hstep : ∀ g, step.group? = some g → step.curve? = some (curves g)) :
    step.keptCurve s.keys (step.perform B s).session.keys curve =
      (step.perform B s).session.keys.map (curves ·.group) := by
  rcases step.keys_cases B s with hkeys | hkeys | ⟨k, C, hkeys, hgroup, -, hmiss, -⟩
  · rw [hkeys]
    cases hk : s.keys with
    | none => rfl
    | some k =>
      rw [hk] at h
      rw [Step.keptCurve_self]
      exact h
  · rw [hkeys]
    rfl
  · rw [hkeys, Step.keptCurve_of_miss hmiss]
    exact hstep _ hgroup

/-- **Where there is one curve for each group, the key in the slot is one of the curve of its
group**, at every moment and on any backend. -/
theorem Session.keptCurve_history (B : Backend V σ) {s : Session (Slot V) σ}
    {curves : UInt32 → CurveName} {curve : Option CurveName}
    (h : curve = s.keys.map (curves ·.group)) {steps : List Step}
    (hsteps : CurveByGroup curves steps) :
    ∀ m ∈ s.history B curve steps,
      m.keptCurve = m.report.session.keys.map (curves ·.group) := by
  induction steps generalizing s curve with
  | nil => simp [Session.history]
  | cons step steps ih =>
    have hstep := Step.keptCurve_perform B h (hsteps step List.mem_cons_self)
    intro m hm
    rcases List.mem_cons.1 hm with rfl | hm
    · exact hstep
    · exact ih hstep (fun step' h' => hsteps step' (List.mem_cons_of_mem _ h')) m hm

/-! ## Faithful backends -/

/-- A key that a faithful backend has made on a curve is one of the domain of the curve. -/
lemma Backend.Faithful.madeOn_of_madeBy {B : Backend V σ} {M : Meaning V}
    {domains : CurveName → Domain} {knows : CurveName → Bool} (hB : B.Faithful M domains knows)
    {C : CurveName} {k : GroupKey V} (h : k.MadeBy B C) :
    knows C = true ∧ k.MadeOn M (domains C) := by
  obtain ⟨cv, ⟨b, hcv⟩, ⟨b', hk⟩⟩ := h
  obtain ⟨hknows, hcurve⟩ := hB.of_lookUpCurve hcv
  exact ⟨hknows, hB.madeOn_of_generate hcurve hk⟩

end EcdsaVectors
