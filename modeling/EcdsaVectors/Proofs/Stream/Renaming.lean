/-
No group is special.

The number of a group is compared with other such numbers, and nothing else is done with it.
So the groups of a stream can be given other numbers, as long as different groups keep
different numbers, and nothing changes but the numbers: neither the results, nor the keys that
are found and made, nor the requests to the backend.

* `rename` gives other numbers to the groups in a case, a key, a session, a step or a result;
* `Outcome.Image` compares two outcomes of which the one is the other under such a change, and
  is kept when runs are put one after the other;
* `Session.renamed_history`: a stream from the beginning, under other numbers.
-/
import Mathlib.Data.List.Forall2
import Mathlib.Logic.Equiv.Basic
import EcdsaVectors.Proofs.Run.Course
import EcdsaVectors.Proofs.Stream.Slot
namespace EcdsaVectors

open Program

variable {V : Values} {σ τ α α' β β' : Type}

/-! ## Other numbers -/

section Rename

variable (f : UInt32 → UInt32)

/-- The key under another number of its group. -/
def GroupKey.rename (k : GroupKey V) : GroupKey V := { k with group := f k.group }

/-- The case under another number of its group. -/
def TestCase.rename (c : TestCase) : TestCase := { c with group := f c.group }

/-- The session with its key under another number. -/
def Session.rename (s : Session (Slot V) σ) : Session (Slot V) σ :=
  { s with keys := s.keys.map (GroupKey.rename f) }

/-- The key that has been fetched, under another number. -/
def Fetched.rename (k : Fetched V) : Fetched V := { k with key := k.key.rename f }

/-- The task with another number for the group for which it wants a key. -/
def Task.rename : Task V → Task V
  | keyGen cv => keyGen cv
  | keyVer cv qx qy => keyVer cv qx qy
  | sigGen cv d g m => sigGen cv d (f g) m
  | sigVer cv d m qx qy r s => sigVer cv d m qx qy r s

/-- The step with another number for its group. -/
def Step.rename : Step → Step
  | run c => run (c.rename f)
  | fetch g C => fetch (f g) C
  | release => release

/-- What a step comes to, under another number. -/
def StepResult.rename : StepResult V → StepResult V
  | ran r c => ran r (c.rename f)
  | fetched r => fetched (r.map (Fetched.rename f))
  | released => released

end Rename

variable {f : UInt32 → UInt32} {B : Backend V σ} {s : Session (Slot V) σ} {g : UInt32}
  {cv : V.Curve}

/-- Different groups are told apart by their other numbers as well. -/
lemma Slot.find?_rename (hf : f.Injective) (slot : Slot V) (g : UInt32) :
    Slot.find? (slot.map (GroupKey.rename f)) (f g) =
      (slot.find? g).map (GroupKey.rename f) := by
  cases slot with
  | none => rfl
  | some k =>
    by_cases hg : k.group = g
    · simp [Slot.find?, GroupKey.rename, hg]
    · simp [Slot.find?, GroupKey.rename, hg, hf.eq_iff]

/-! ## Images of outcomes -/

/-- The second outcome is the first with another value and another state, and the requests are
the same. -/
structure Outcome.Image (φ : α → α') (ψ : σ → τ) (o : Outcome V σ α) (p : Outcome V τ α') :
    Prop where
  result : p.result = o.result.map φ
  state : p.state = ψ o.state
  requests : requests p.trace = requests o.trace

namespace Outcome.Image

variable {φ : α → α'} {χ : β → β'} {ψ : σ → τ} {o : Outcome V σ α} {p : Outcome V τ α'}

lemma refl (o : Outcome V σ α) : o.Image id id o := by
  refine ⟨?_, rfl, rfl⟩
  cases o.result <;> rfl

lemma after (h : o.Image φ ψ p) {t u : List (Entry V)}
    (htu : EcdsaVectors.requests u = EcdsaVectors.requests t) :
    (o.after t).Image φ ψ (p.after u) := by
  refine ⟨h.result, h.state, ?_⟩
  simp only [Outcome.after, requests_append, htu, h.requests]

lemma andThen {k : α → σ → Outcome V σ β} {k' : α' → τ → Outcome V τ β'} (h : o.Image φ ψ p)
    (hk : ∀ a s, (k a s).Image χ ψ (k' (φ a) (ψ s))) :
    (o.andThen k).Image χ ψ (p.andThen k') := by
  obtain ⟨r, s, t⟩ := o
  obtain ⟨r', s', t'⟩ := p
  obtain ⟨rfl, rfl, ht⟩ := h
  cases r with
  | error e => exact ⟨rfl, rfl, ht⟩
  | ok a => exact (hk a s).after ht

lemma bind {B : Backend V σ} (p : Program V α) {k : α → Program V β} {k' : α → Program V β'}
    (hk : ∀ a b, ((k a).run B b).Image χ id ((k' a).run B b)) (b : σ) :
    ((p >>= k).run B b).Image χ id ((p >>= k').run B b) := by
  rw [run_bind, run_bind]
  exact (refl (p.run B b)).andThen hk

end Outcome.Image

/-! ## Keys and cases -/

lemma Session.run_rename {p : Program V α} {p' : Program V α'} {φ : α → α'}
    (h : ∀ b, (p.run B b).Image φ id (p'.run B b)) (s : Session (Slot V) σ) :
    (s.run B p).Image φ (rename f) ((s.rename f).run B p') := by
  obtain ⟨hresult, hstate, hrequests⟩ := h s.backend
  exact ⟨hresult, congrArg (Session.mk (s.rename f).keys) hstate, hrequests⟩

lemma GroupKey.generate_rename (B : Backend V σ) (g : UInt32) (cv : V.Curve) (b : σ) :
    ((generate g cv).run B b).Image (rename f) id ((generate (f g) cv).run B b) := by
  refine .bind _ (fun pair b => .bind _ (fun key b => .bind _ (fun q b => ?_) b) b) b
  exact ⟨rfl, rfl, rfl⟩

/-- A key is fetched alike: it is found under the new number where it has been found before, and
is made where it has been made before. -/
lemma Session.fetch_rename (hf : f.Injective) (B : Backend V σ) (s : Session (Slot V) σ)
    (g : UInt32) (cv : V.Curve) :
    (s.fetch (.slot V) B g cv).Image (Fetched.rename f) (rename f)
      ((s.rename f).fetch (.slot V) B (f g) cv) := by
  have hfind : Slot.find? (s.rename f).keys (f g) = _ := Slot.find?_rename hf s.keys g
  cases hk : s.keys.find? g with
  | some k =>
    rw [hk] at hfind
    rw [fetch_slot_of_hit hk, fetch_slot_of_hit hfind]
    exact ⟨rfl, rfl, rfl⟩
  | none =>
    rw [hk] at hfind
    obtain ⟨made, hmade⟩ : ∃ o, (GroupKey.generate g cv).run B s.backend = o := ⟨_, rfl⟩
    obtain ⟨made', hmade'⟩ : ∃ o, (GroupKey.generate (f g) cv).run B (s.rename f).backend = o :=
      ⟨_, rfl⟩
    have himage : made.Image (GroupKey.rename f) id made' :=
      hmade ▸ hmade' ▸ GroupKey.generate_rename B g cv s.backend
    rw [fetch_slot_of_miss hk hmade, fetch_slot_of_miss hfind hmade']
    obtain ⟨hresult, hstate, hrequests⟩ := himage
    refine ⟨?_, ?_, by simpa using hrequests⟩
    · rw [hresult]
      cases made.result <;> rfl
    · rw [hresult, hstate]
      cases made.result <;> rfl

lemma Task.perform_rename (hf : f.Injective) (B : Backend V σ) (task : Task V)
    (s : Session (Slot V) σ) :
    (task.perform (.slot V) B s).Image id (Session.rename f)
      ((task.rename f).perform (.slot V) B (s.rename f)) := by
  cases task with
  | keyGen cv => exact s.run_rename fun b => .refl _
  | keyVer cv qx qy => exact s.run_rename fun b => .refl _
  | sigVer cv d m qx qy r s' => exact s.run_rename fun b => .refl _
  | sigGen cv d g m =>
    -- the number of its group has no part in what is signed with a key
    exact (s.fetch_rename hf B g cv).andThen fun k t => t.run_rename fun b => .refl _

namespace TestCase

@[simp] lemma mode_rename (c : TestCase) : (c.rename f).mode = c.mode := rfl

lemma task_rename (B : Backend V σ) (c : TestCase) (b : σ) :
    ((c.task : Program V (Task V)).run B b).Image (Task.rename f) id
      ((c.rename f).task.run B b) := by
  refine .bind _ (fun cv b => ?_) b
  simp only [mode_rename]
  cases c.mode with
  | keyGen => exact ⟨rfl, rfl, rfl⟩
  | keyVer => exact ⟨rfl, rfl, rfl⟩
  | sigGen =>
    refine .bind (Codec.lookUpHash c.hash) (fun d b => ?_) b
    exact ⟨rfl, rfl, rfl⟩
  | sigVer =>
    refine .bind (Codec.lookUpHash c.hash) (fun d b => ?_) b
    exact ⟨rfl, rfl, rfl⟩

lemma begin_rename (c : TestCase) (task : Task V) :
    (c.rename f).begin (task.rename f) = (c.begin task).rename f := by
  cases task <;> rfl

lemma record_rename (c : TestCase) (o : Output) :
    (c.rename f).record o = (c.record o).rename f := by
  cases o <;> rfl

end TestCase

/-- The second report is the first under other numbers. -/
structure Report.Renamed (f : UInt32 → UInt32) (r r' : Report V (Slot V) σ) : Prop where
  result : r'.result = r.result
  case : r'.case = r.case.rename f
  session : r'.session = r.session.rename f
  requests : requests r'.trace = requests r.trace

lemma TestCase.run_rename (hf : f.Injective) (B : Backend V σ) (c : TestCase)
    (s : Session (Slot V) σ) :
    (c.run (.slot V) B s).Renamed f ((c.rename f).run (.slot V) B (s.rename f)) := by
  obtain ⟨hresult, hstate, hrequests⟩ := s.run_rename (f := f) (c.task_rename (f := f) B)
  cases hr : (s.run B c.task).result with
  | error e =>
    rw [hr] at hresult
    rw [run_of_unknown hr, run_of_unknown hresult]
    refine ⟨rfl, rfl, hstate, ?_⟩
    simpa [failed, opening] using hrequests
  | ok task =>
    rw [hr] at hresult
    obtain ⟨hresult', hstate', hrequests'⟩ :=
      task.perform_rename hf B (s.run B c.task).state
    rw [← hstate] at hresult' hstate' hrequests'
    cases hd : (task.perform (.slot V) B (s.run B c.task).state).result with
    | error e =>
      rw [hd] at hresult'
      rw [run_of_fault hr hd, run_of_fault hresult hresult', begin_rename]
      refine ⟨rfl, rfl, hstate', ?_⟩
      simp [failed, opening, hrequests, hrequests']
    | ok o =>
      rw [hd] at hresult'
      rw [run_of_output hr hd, run_of_output hresult hresult', begin_rename]
      refine ⟨rfl, record_rename _ _, hstate', ?_⟩
      simp [opening, hrequests, hrequests']

/-- The second report is that of the same step under other numbers. -/
structure StepReport.Renamed (f : UInt32 → UInt32) (r r' : StepReport V σ) : Prop where
  result : r'.result = r.result.rename f
  session : r'.session = r.session.rename f
  requests : requests r'.trace = requests r.trace

lemma Step.perform_rename (hf : f.Injective) (B : Backend V σ) (s : Session (Slot V) σ)
    (step : Step) : (step.perform B s).Renamed f ((step.rename f).perform B (s.rename f)) := by
  cases step with
  | run c =>
    obtain ⟨hresult, hcase, hsession, hrequests⟩ := c.run_rename hf B s
    exact ⟨congrArg₂ StepResult.ran hresult hcase, hsession, hrequests⟩
  | fetch g C =>
    obtain ⟨hresult, hstate, hrequests⟩ :=
      (s.run_rename (f := f) fun b => .refl ((Codec.lookUpCurve C).run B b)).andThen
        fun cv t => t.fetch_rename hf B g cv
    exact ⟨congrArg StepResult.fetched hresult, hstate, hrequests⟩
  | release =>
    obtain ⟨_ | k, b⟩ := s
    · exact ⟨rfl, rfl, rfl⟩
    · exact ⟨rfl, rfl, rfl⟩

/-! ## Streams -/

/-- The second moment is the first under other numbers.  A key is asked for, found or made in
the one if it is in the other. -/
structure Moment.Renamed (f : UInt32 → UInt32) (m m' : Moment V σ) : Prop where
  step : m'.step = m.step.rename f
  report : m.report.Renamed f m'.report
  attempts (g : UInt32) (cv : V.Curve) : m'.Attempts (f g) cv ↔ m.Attempts g cv
  isAttempt : m'.IsAttempt ↔ m.IsAttempt
  misses : m'.Misses ↔ m.Misses

/-- Whether a key pair is asked for can be told from the requests. -/
lemma asksForPair_requests {t : List (Entry V)} : AsksForPair (requests t) ↔ AsksForPair t := by
  simp only [AsksForPair, mem_requests]

namespace Moment

variable {m m' : Moment V σ}

/-- What is attempted can be told from the step and the requests. -/
lemma attempts_rename (hf : f.Injective) (hstep : m'.step = m.step.rename f)
    (hrequests : requests m'.report.trace = requests m.report.trace) (g : UInt32)
    (cv : V.Curve) : m'.Attempts (f g) cv ↔ m.Attempts g cv := by
  unfold Attempts
  rw [hstep, hrequests]
  cases m.step with
  | run c => simp [Step.rename, TestCase.rename, hf.eq_iff]
  | fetch g' C => simp [Step.rename, hf.eq_iff]
  | release => exact Iff.rfl

/-- The number of a group for which a key is asked is one that a group has been given. -/
lemma exists_of_attempts_rename (hstep : m'.step = m.step.rename f) {g' : UInt32}
    {cv : V.Curve} (h : m'.Attempts g' cv) : ∃ g, g' = f g := by
  unfold Attempts at h
  rw [hstep] at h
  cases hm : m.step with
  | run c =>
    rw [hm] at h
    exact ⟨c.group, h.2.1.symm⟩
  | fetch g C =>
    rw [hm] at h
    exact ⟨g, h.1.symm⟩
  | release =>
    rw [hm] at h
    exact h.elim

lemma renamed_of_report (hf : f.Injective) (hstep : m'.step = m.step.rename f)
    (hreport : m.report.Renamed f m'.report) : m.Renamed f m' := by
  have hattempts := attempts_rename hf hstep hreport.requests
  have hattempt : m'.IsAttempt ↔ m.IsAttempt := by
    constructor
    · rintro ⟨g', cv, h⟩
      obtain ⟨g, rfl⟩ := exists_of_attempts_rename hstep h
      exact ⟨g, cv, (hattempts g cv).1 h⟩
    · rintro ⟨g, cv, h⟩
      exact ⟨f g, cv, (hattempts g cv).2 h⟩
  refine ⟨hstep, hreport, hattempts, hattempt, ?_⟩
  rw [Misses, Misses, hattempt, ← asksForPair_requests, hreport.requests, asksForPair_requests]

end Moment

/-- The moments of a stream under other numbers, in sessions that differ in the numbers. -/
lemma Session.renamed_history_from (hf : f.Injective) (B : Backend V σ)
    (s : Session (Slot V) σ) (curve curve' : Option CurveName) (steps : List Step) :
    List.Forall₂ (Moment.Renamed f) (s.history B curve steps)
      ((s.rename f).history B curve' (steps.map (Step.rename f))) := by
  induction steps generalizing s curve curve' with
  | nil => exact .nil
  | cons step steps ih =>
    have hreport := step.perform_rename hf B s
    rw [List.map_cons, history, history, hreport.session]
    exact .cons (Moment.renamed_of_report hf rfl hreport) (ih _ _ _)

/-- **No group is special.**  If the groups of a stream get other numbers, different ones for
different groups, each step of it comes to the same, finds a key or makes one as before, asks
the same of the backend and leaves it in the same state; and the case and the key that it leaves
are the same but for the numbers of their groups. -/
theorem Session.renamed_history (hf : f.Injective) (B : Backend V σ) (b : σ)
    (steps : List Step) :
    List.Forall₂ (Moment.Renamed f) ((fresh b).history B none steps)
      ((fresh b).history B none (steps.map (Step.rename f))) :=
  renamed_history_from hf B (fresh b) none none steps

namespace Exchanged

/-- The smallest number and the largest are exchanged. -/
def exchange : UInt32 → UInt32 := Equiv.swap 0 0xffffffff

/-- A case for which a signature is to be made. -/
def case (g : UInt32) : TestCase :=
  { mode := .sigGen, group := g, number := 1, curve := .p256, hash := some .sha1 }

/-- Steps for two groups, and for a third between them. -/
def steps (g h : UInt32) : List Step :=
  [.run (case g), .fetch h .p384, .run (case h), .run (case g), .run { case 7 with hash := none },
    .fetch g .p521, .release, .run (case h)]

/-- A session with three scalars for keys, in which the third signature goes wrong. -/
def start : Session (Slot BigInteger.values) (Script × Entropy) :=
  .fresh ({ keys := [[3], [5], [8]], plans := [⟨.sign, 3, .fault .signing⟩] }, { numbers := id })

end Exchanged

/-- The groups with the smallest number and the largest change places. -/
theorem renamed_history_of_exchanged :
    Exchanged.exchange.Injective ∧
      List.Forall₂ (Moment.Renamed Exchanged.exchange)
        (Exchanged.start.history Stage.bigInteger.scripted none (Exchanged.steps 0 0xffffffff))
        (Exchanged.start.history Stage.bigInteger.scripted none
          (Exchanged.steps 0xffffffff 0)) := by
  have hf : Exchanged.exchange.Injective := (Equiv.swap 0 0xffffffff).injective
  have hsteps : (Exchanged.steps 0 0xffffffff).map (Step.rename Exchanged.exchange) =
      Exchanged.steps 0xffffffff 0 := by
    decide
  refine ⟨hf, ?_⟩
  rw [← hsteps]
  exact Session.renamed_history hf _ _ _

end EcdsaVectors
