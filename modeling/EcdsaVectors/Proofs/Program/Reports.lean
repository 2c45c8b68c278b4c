/-
What a program reports.

Events come from two sides.  A backend reports what it finds in answering a request, and the
program what it does itself.  As long as the backend is `Discreet`, it can be told from the
program alone what it reports of the slot, and that it reports no error unless it fails.

* `events t`, `slotEvents t`: the events of a trace, and those that tell of the slot;
* `Backend.Discreet B`: the backend leaves the slot to the program, and reports an error only
  with an answer that is a fault;
* `Candid B p l`: the program `p` reports an error only if it fails, and tells of the slot what
  stands in `l` if it gives a value, and nothing otherwise.  On a discreet backend this follows
  from what the program reports by itself (`Candid.of_speaks`);
* `Closes B p Q`: the last event of `p` goes with the value that it gives.
-/
import EcdsaVectors.Script
import EcdsaVectors.Proofs.Program.Course
namespace EcdsaVectors

variable {V : Values} {σ α β : Type}

/-! ## The events of a trace -/

/-- The events of a trace, in order. -/
def events (t : List (Entry V)) : List Event := t.filterMap Entry.event?

@[simp] lemma events_nil : events ([] : List (Entry V)) = [] := rfl

@[simp] lemma events_append (t u : List (Entry V)) : events (t ++ u) = events t ++ events u :=
  List.filterMap_append

@[simp] lemma events_cons_asked {m : Method} (q : Request V m) (a : m.Answer V)
    (t : List (Entry V)) : events (.asked q a :: t) = events t := rfl

@[simp] lemma events_cons_event (e : Event) (t : List (Entry V)) :
    events (.event e :: t) = e :: events t := rfl

@[simp] lemma events_map_event (l : List Event) :
    events (l.map (Entry.event (V := V))) = l := by
  induction l with
  | nil => rfl
  | cons e l ih => exact congrArg (List.cons e) ih

/-- The event tells of the key that is kept. -/
def Event.ofSlot : Event → Bool
  | groupKeyReused _ | groupKeyEvicted _ _ | groupKeyGenerated _ | groupKeyReleased _ => true
  | _ => false

/-- The events of a trace that tell of the key that is kept. -/
def slotEvents (t : List (Entry V)) : List Event := (events t).filter Event.ofSlot

@[simp] lemma slotEvents_nil : slotEvents ([] : List (Entry V)) = [] := rfl

@[simp] lemma slotEvents_append (t u : List (Entry V)) :
    slotEvents (t ++ u) = slotEvents t ++ slotEvents u := by
  simp [slotEvents]

@[simp] lemma slotEvents_cons_asked {m : Method} (q : Request V m) (a : m.Answer V)
    (t : List (Entry V)) : slotEvents (.asked q a :: t) = slotEvents t := rfl

lemma slotEvents_cons_of_not {e : Event} (h : e.ofSlot = false) (t : List (Entry V)) :
    slotEvents (.event e :: t) = slotEvents t := by
  simp [slotEvents, h]

@[simp] lemma slotEvents_map_event (l : List Event) :
    slotEvents (l.map (Entry.event (V := V))) = l.filter Event.ofSlot := by
  simp [slotEvents]

/-! ## Discreet backends -/

/-- The event does not tell of the slot, and is no error. -/
def Event.IsRemark (e : Event) : Prop := e.ofSlot = false ∧ e.level ≠ .error

/-- The events of a reply do not tell of the slot, and if an error is among them the answer is
one by which the request goes wrong. -/
def Reply.Discreet {m : Method} (r : Reply σ (m.Answer V)) : Prop :=
  ∀ e ∈ r.events, e.ofSlot = false ∧
    (e.level = .error → ∃ f, m.upset? V (.fault f) = some r.answer)

/-- A backend all of whose replies are discreet. -/
def Backend.Discreet (B : Backend V σ) : Prop :=
  ∀ ⦃m : Method⦄ (q : Request V m) (s : σ), (B.respond q s).Discreet

lemma Reply.discreet_of_isRemark {m : Method} {r : Reply σ (m.Answer V)}
    (h : ∀ e ∈ r.events, e.IsRemark) : r.Discreet := by
  intro e he
  obtain ⟨hslot, hcalm⟩ := h e he
  exact ⟨hslot, fun herror => absurd herror hcalm⟩

/-! ## Outcomes without errors -/

/-- An outcome that reports an error only if it is a fault. -/
def Outcome.Calm (o : Outcome V σ α) : Prop :=
  ∀ a, o.result = .ok a → ∀ e ∈ events o.trace, e.level ≠ .error

namespace Outcome.Calm

variable {o : Outcome V σ α} {f : α → σ → Outcome V σ β}

lemma of_error {e : Fault} (h : o.result = .error e) : o.Calm := by
  intro a ha
  cases h.symm.trans ha

/-- What comes after a calm outcome is calm if all that can come is. -/
lemma andThen (ho : o.Calm) (hf : ∀ a, o.result = .ok a → (f a o.state).Calm) :
    (o.andThen f).Calm := by
  cases hr : o.result with
  | error e =>
    rw [Outcome.andThen_of_error hr]
    exact of_error rfl
  | ok a =>
    rw [Outcome.andThen_of_ok hr]
    intro b hb e he
    rw [Outcome.after, events_append] at he
    rcases List.mem_append.1 he with he | he
    · exact ho a hr e he
    · exact hf a hr b hb e he

end Outcome.Calm

/-! ## What a program reports by itself -/

/-- A request in the trace has gone wrong. -/
def GoesWrong (t : List (Entry V)) : Prop :=
  ∃ (m : Method) (q : Request V m) (a : m.Answer V) (f : Fault),
    .asked q a ∈ t ∧ m.upset? V (.fault f) = some a

/-- A trace that comes to a value tells of the slot what stands in `l`, and holds no error; one
that comes to a fault tells nothing of the slot. -/
def Speaks (l : List Event) (t : List (Entry V)) : Except Fault α → Prop
  | .ok _ => slotEvents t = l ∧ ∀ e ∈ events t, e.level ≠ .error
  | .error _ => slotEvents t = []

lemma GoesWrong.mono {t u : List (Entry V)} (h : GoesWrong t)
    (htu : ∀ e ∈ t, e ∈ u) : GoesWrong u := by
  obtain ⟨m, q, a, f, ha, hf⟩ := h
  exact ⟨m, q, a, f, htu _ ha, hf⟩

/-- The events that tell of the slot come from the program, and so does an error, unless a
request goes wrong. -/
lemma Program.exists_tale_run {B : Backend V σ} (hB : B.Discreet) (p : Program V α) (s : σ) :
    ∃ t, p.Tale t (p.run B s).result ∧ requests t = requests (p.run B s).trace ∧
      slotEvents t = slotEvents (p.run B s).trace ∧
      ∀ e ∈ events (p.run B s).trace, e.level = .error → e ∈ events t ∨ GoesWrong t := by
  induction p generalizing s with
  | done a => exact ⟨[], ⟨rfl, rfl⟩, rfl, rfl, by rintro e ⟨⟩⟩
  | fail e => exact ⟨[], ⟨rfl, rfl⟩, rfl, rfl, by rintro e ⟨⟩⟩
  | log e p ih =>
    obtain ⟨t, ht, hrequests, hslot, herror⟩ := ih s
    refine ⟨.event e :: t, ⟨t, rfl, ht⟩, hrequests, ?_, ?_⟩
    · simp only [slotEvents, events_cons_event, run_log, Outcome.after, List.cons_append,
        List.nil_append, List.filter_cons] at hslot ⊢
      rw [hslot]
    · intro e' he' hlevel
      rcases List.mem_cons.1 he' with rfl | he'
      · exact .inl List.mem_cons_self
      · exact (herror e' he' hlevel).imp (List.mem_cons_of_mem _)
          fun h => h.mono fun _ => List.mem_cons_of_mem _
  | ask q k ih =>
    obtain ⟨t, ht, hrequests, hslot, herror⟩ := ih (B.respond q s).answer (B.respond q s).state
    have hquiet : (B.respond q s).events.filter Event.ofSlot = [] :=
      List.filter_eq_nil_iff.2 fun e he => by simp [(hB q s e he).1]
    refine ⟨.asked q (B.respond q s).answer :: t, ⟨_, t, rfl, ht⟩, ?_, ?_, ?_⟩
    · simp [Outcome.after, hrequests]
    · simp [Outcome.after, hslot, hquiet]
    · intro e he hlevel
      simp only [run_ask, Outcome.after, List.cons_append, events_append, events_cons_asked,
        events_map_event, List.mem_append] at he
      rcases he with he | he
      · -- an error of the backend comes with an answer by which the request goes wrong
        obtain ⟨f, hf⟩ := (hB q s e he).2 hlevel
        exact .inr ⟨_, q, _, f, List.mem_cons_self, hf⟩
      · exact (herror e he hlevel).imp id fun h => h.mono fun _ => List.mem_cons_of_mem _

namespace Program

/-! ## Candid programs -/

/-- The program reports an error only if it fails, and of the slot it tells what stands in `l`
if it gives a value, and nothing otherwise. -/
structure Candid (B : Backend V σ) (p : Program V α) (l : List Event) : Prop where
  calm (s : σ) : (p.run B s).Calm
  told {s : σ} {a : α} (h : (p.run B s).result = .ok a) : slotEvents (p.run B s).trace = l
  silent {s : σ} {f : Fault} (h : (p.run B s).result = .error f) :
    slotEvents (p.run B s).trace = []

namespace Candid

variable {B : Backend V σ} {p : Program V α} {l : List Event}

/-- A program that tells of the slot in no case. -/
lemma slotEvents_eq_nil (h : Candid B p []) (s : σ) : slotEvents (p.run B s).trace = [] := by
  cases hr : (p.run B s).result with
  | error e => exact h.silent hr
  | ok a => exact h.told hr

/-- A program that speaks so by itself is candid, if no request goes wrong where it comes to a
value. -/
lemma of_speaks (hB : B.Discreet) (hspeaks : ∀ t r, p.Tale t r → Speaks l t r)
    (hright : ∀ t a, p.Course t (.ok a) → ¬ GoesWrong t) : Candid B p l where
  calm s := by
    intro a ha e he hlevel
    obtain ⟨t, ht, -, -, herror⟩ := exists_tale_run hB p s
    rw [ha] at ht
    rcases herror e he hlevel with he | hwrong
    · exact (hspeaks t _ ht).2 e he hlevel
    · refine hright _ a (course_iff_tale.2 ⟨t, ht, rfl⟩) ?_
      obtain ⟨m, q, x, f, hx, hf⟩ := hwrong
      exact ⟨m, q, x, f, mem_requests.2 hx, hf⟩
  told {s a} ha := by
    obtain ⟨t, ht, -, hslot, -⟩ := exists_tale_run hB p s
    rw [ha] at ht
    exact hslot.symm.trans (hspeaks t _ ht).1
  silent {s f} hf := by
    obtain ⟨t, ht, -, hslot, -⟩ := exists_tale_run hB p s
    rw [hf] at ht
    exact hslot.symm.trans (hspeaks t _ ht)

end Candid

/-! ## The last event -/

/-- A value that the program gives goes with the last event that it reports. -/
def Closes (B : Backend V σ) (p : Program V α) (Q : α → Event → Prop) : Prop :=
  ∀ s a, (p.run B s).result = .ok a → ∃ e, (events (p.run B s).trace).getLast? = some e ∧ Q a e

namespace Closes

variable {B : Backend V σ} {p : Program V α} {f : α → Program V β}

lemma report {e : Event} {a : α} {Q : α → Event → Prop} (h : Q a e) :
    Closes B (Program.report e >>= fun _ => Pure.pure a) Q := by
  rintro s b hb
  obtain rfl : a = b := Except.ok.inj hb
  exact ⟨e, rfl, h⟩

/-- The last event of one program after another is that of the second. -/
lemma bind {Q : β → Event → Prop} (hf : ∀ a, Closes B (f a) Q) : Closes B (p >>= f) Q := by
  intro s b hb
  rw [run_bind] at hb ⊢
  obtain ⟨a, hr, hb, -⟩ := Outcome.exists_of_andThen hb
  obtain ⟨e, he, hQ⟩ := hf a _ b hb
  refine ⟨e, ?_, hQ⟩
  rw [Outcome.andThen_of_ok hr, Outcome.after, events_append, List.getLast?_append, he]
  rfl

end Closes

end Program

end EcdsaVectors
