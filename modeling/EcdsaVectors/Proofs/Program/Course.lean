/-
The courses that a program can take.

What a program asks next depends on the answers so far, and on nothing else.  `Course p t r`
says that the requests `t`, with the answers that stand in them, take the program `p` to the
result `r`.  No backend is mentioned: a run takes a course whatever the backend is
(`course_run`), so that what is shown of all courses is shown of all backends, whether they
fail or not.

* `course_bind_ok`, `course_bind_error`: the course of one program after another is that of
  the first and then that of the second, unless the first has failed;
* `Tale p t r`: a course with the events that the program reports by itself on the way, which
  is found in each run (`exists_tale_run`);
* `Follows p l`: the methods that `p` calls are those of `l`, in this order, as far as it
  comes;
* `CallsOnly p l`: the methods that `p` calls are some of those of `l`, in any order.
-/
import EcdsaVectors.Proofs.Program.Calls
namespace EcdsaVectors

variable {V : Values} {σ α β : Type}

namespace Program

/-- The requests `t` with their answers take the program to the result `r`. -/
def Course : Program V α → List (Entry V) → Except Fault α → Prop
  | done a, t, r => t = [] ∧ r = .ok a
  | fail e, t, r => t = [] ∧ r = .error e
  | log _ p, t, r => p.Course t r
  | ask q k, t, r => ∃ a u, t = .asked q a :: u ∧ (k a).Course u r

/-- A run takes a course of its program. -/
theorem course_run (B : Backend V σ) (p : Program V α) (s : σ) :
    p.Course (requests (p.run B s).trace) (p.run B s).result := by
  induction p generalizing s with
  | done a => exact ⟨rfl, rfl⟩
  | fail e => exact ⟨rfl, rfl⟩
  | log e p ih => exact ih s
  | ask q k ih =>
    refine ⟨_, _, ?_, ih (B.respond q s).answer (B.respond q s).state⟩
    simp [Outcome.after]

/-- What stands in the trace of a run is what the backend has answered. -/
lemma exists_respond_of_asked {B : Backend V σ} {p : Program V α} {s : σ} {m : Method}
    {q : Request V m} {a : m.Answer V} (h : .asked q a ∈ (p.run B s).trace) :
    ∃ b, (B.respond q b).answer = a := by
  induction p generalizing s with
  | done _ => cases h
  | fail _ => cases h
  | log e p ih =>
    rcases List.mem_cons.1 h with h | h
    · cases h
    · exact ih h
  | ask q' k ih =>
    simp only [run_ask, Outcome.after, List.cons_append, List.mem_cons, List.mem_append,
      List.mem_map] at h
    rcases h with h | ⟨e, -, h⟩ | h
    · cases h
      exact ⟨s, rfl⟩
    · cases h
    · exact ih _ h

lemma exists_respond_of_requests {B : Backend V σ} {p : Program V α} {s : σ}
    {l : List (Entry V)} (hl : requests (p.run B s).trace = l) {m : Method} {q : Request V m}
    {a : m.Answer V} (h : .asked q a ∈ l) : ∃ b, (B.respond q b).answer = a :=
  exists_respond_of_asked (mem_requests.1 (hl ▸ h))

/-- The requests in `t` with their answers take the program to the result `r`, and the events in
`t` are those that it reports by itself on the way. -/
def Tale : Program V α → List (Entry V) → Except Fault α → Prop
  | done a, t, r => t = [] ∧ r = .ok a
  | fail e, t, r => t = [] ∧ r = .error e
  | log e p, t, r => ∃ u, t = .event e :: u ∧ p.Tale u r
  | ask q k, t, r => ∃ a u, t = .asked q a :: u ∧ (k a).Tale u r

variable {p : Program V α} {f : α → Program V β} {t : List (Entry V)}

/-- A course is a tale without its events. -/
lemma course_iff_tale {r : Except Fault α} :
    p.Course t r ↔ ∃ u, p.Tale u r ∧ requests u = t := by
  induction p generalizing t with
  | done a =>
    constructor
    · rintro ⟨rfl, rfl⟩
      exact ⟨[], ⟨rfl, rfl⟩, rfl⟩
    · rintro ⟨_, ⟨rfl, rfl⟩, rfl⟩
      exact ⟨rfl, rfl⟩
  | fail e =>
    constructor
    · rintro ⟨rfl, rfl⟩
      exact ⟨[], ⟨rfl, rfl⟩, rfl⟩
    · rintro ⟨_, ⟨rfl, rfl⟩, rfl⟩
      exact ⟨rfl, rfl⟩
  | log e p ih =>
    constructor
    · intro h
      obtain ⟨u, hu, rfl⟩ := ih.1 h
      exact ⟨.event e :: u, ⟨u, rfl, hu⟩, rfl⟩
    · rintro ⟨_, ⟨u, rfl, hu⟩, rfl⟩
      exact ih.2 ⟨u, hu, rfl⟩
  | ask q k ih =>
    constructor
    · rintro ⟨a, v, rfl, h⟩
      obtain ⟨u, hu, rfl⟩ := (ih a).1 h
      exact ⟨.asked q a :: u, ⟨a, u, rfl, hu⟩, rfl⟩
    · rintro ⟨_, ⟨a, u, rfl, hu⟩, rfl⟩
      exact ⟨a, requests u, rfl, (ih a).2 ⟨u, hu, rfl⟩⟩

/-! ## One program after another -/

@[simp] lemma course_pure {a : α} {r : Except Fault α} :
    (pure a : Program V α).Course t r ↔ t = [] ∧ r = .ok a := Iff.rfl

@[simp] lemma course_fail {e : Fault} {r : Except Fault α} :
    (fail e : Program V α).Course t r ↔ t = [] ∧ r = .error e := Iff.rfl

@[simp] lemma course_log {e : Event} {r : Except Fault α} :
    (log e p).Course t r ↔ p.Course t r := Iff.rfl

@[simp] lemma course_ask {m : Method} {q : Request V m} {k : m.Answer V → Program V α}
    {r : Except Fault α} :
    (ask q k).Course t r ↔ ∃ a u, t = .asked q a :: u ∧ (k a).Course u r := Iff.rfl

@[simp] lemma course_ofAnswer {x r : Except Fault α} :
    (ofAnswer x : Program V α).Course t r ↔ t = [] ∧ r = x := by
  cases x <;> exact Iff.rfl

lemma result_bind (B : Backend V σ) (p : Program V α) (f : α → Program V β) (s : σ) :
    ((p >>= f).run B s).result =
      match (p.run B s).result with
      | .ok a => ((f a).run B (p.run B s).state).result
      | .error e => .error e := by
  rw [run_bind]
  cases h : (p.run B s).result <;> simp [Outcome.andThen, h]

lemma result_queryOk_bind {B : Backend V σ} {m : Method} {q : Request V m}
    {f : m.Answer V → Except Fault α} {g : α → Program V β} {s : σ} {a : α}
    (h : f (B.respond q s).answer = .ok a) :
    (((query q >>= fun x => ofAnswer (f x)) >>= g).run B s).result =
      ((g a).run B (B.respond q s).state).result := by
  change ((ofAnswer (f (B.respond q s).answer) >>= g).run B (B.respond q s).state).result = _
  rw [h]
  rfl

/-- The tale of one program after another is that of the first if this fails, and otherwise goes
on with that of the second. -/
lemma tale_bind {r : Except Fault β} :
    (p >>= f).Tale t r ↔ (∃ e, r = .error e ∧ p.Tale t (.error e)) ∨
      ∃ a u v, t = u ++ v ∧ p.Tale u (.ok a) ∧ (f a).Tale v r := by
  change (p.bind f).Tale t r ↔ _
  induction p generalizing t with
  | done a =>
    constructor
    · intro h
      exact .inr ⟨a, [], t, rfl, ⟨rfl, rfl⟩, h⟩
    · rintro (⟨_, -, -, ⟨⟩⟩ | ⟨_, _, v, rfl, ⟨rfl, ⟨⟩⟩, h⟩)
      exact h
  | fail e =>
    constructor
    · rintro ⟨rfl, rfl⟩
      exact .inl ⟨e, rfl, rfl, rfl⟩
    · rintro (⟨_, rfl, rfl, ⟨⟩⟩ | ⟨_, _, _, rfl, ⟨-, ⟨⟩⟩, -⟩)
      exact ⟨rfl, rfl⟩
  | log e p ih =>
    simp only [Program.bind, Tale, ih]
    constructor
    · rintro ⟨w, rfl, ⟨e', rfl, hw⟩ | ⟨a, u, v, rfl, hu, hv⟩⟩
      · exact .inl ⟨e', rfl, w, rfl, hw⟩
      · exact .inr ⟨a, .event e :: u, v, rfl, ⟨u, rfl, hu⟩, hv⟩
    · rintro (⟨e', rfl, w, rfl, hw⟩ | ⟨a, -, v, rfl, ⟨u, rfl, hu⟩, hv⟩)
      · exact ⟨w, rfl, .inl ⟨e', rfl, hw⟩⟩
      · exact ⟨u ++ v, rfl, .inr ⟨a, u, v, rfl, hu, hv⟩⟩
  | ask q k ih =>
    simp only [Program.bind, Tale, ih]
    constructor
    · rintro ⟨x, w, rfl, ⟨e, rfl, hw⟩ | ⟨a, u, v, rfl, hu, hv⟩⟩
      · exact .inl ⟨e, rfl, x, w, rfl, hw⟩
      · exact .inr ⟨a, .asked q x :: u, v, rfl, ⟨x, u, rfl, hu⟩, hv⟩
    · rintro (⟨e, rfl, x, w, rfl, hw⟩ | ⟨a, -, v, rfl, ⟨x, u, rfl, hu⟩, hv⟩)
      · exact ⟨x, w, rfl, .inl ⟨e, rfl, hw⟩⟩
      · exact ⟨x, u ++ v, rfl, .inr ⟨a, u, v, rfl, hu, hv⟩⟩

lemma course_bind {r : Except Fault β} :
    (p >>= f).Course t r ↔ (∃ e, r = .error e ∧ p.Course t (.error e)) ∨
      ∃ a u v, t = u ++ v ∧ p.Course u (.ok a) ∧ (f a).Course v r := by
  simp only [course_iff_tale, tale_bind]
  constructor
  · rintro ⟨w, ⟨e, rfl, hw⟩ | ⟨a, u, v, rfl, hu, hv⟩, rfl⟩
    · exact .inl ⟨e, rfl, w, hw, rfl⟩
    · exact .inr ⟨a, _, _, requests_append u v, ⟨u, hu, rfl⟩, v, hv, rfl⟩
  · rintro (⟨e, rfl, w, hw, rfl⟩ | ⟨a, _, _, rfl, ⟨u, hu, rfl⟩, v, hv, rfl⟩)
    · exact ⟨w, .inl ⟨e, rfl, hw⟩, rfl⟩
    · exact ⟨u ++ v, .inr ⟨a, u, v, rfl, hu, hv⟩, requests_append u v⟩

/-- A program that has come to a value has gone on from a value. -/
lemma course_bind_ok {b : β} :
    (p >>= f).Course t (.ok b) ↔
      ∃ a u v, t = u ++ v ∧ p.Course u (.ok a) ∧ (f a).Course v (.ok b) := by
  simp [course_bind]

/-- A program that has failed has done so at once, or has gone on from a value. -/
lemma course_bind_error {e : Fault} :
    (p >>= f).Course t (.error e) ↔ p.Course t (.error e) ∨
      ∃ a u v, t = u ++ v ∧ p.Course u (.ok a) ∧ (f a).Course v (.error e) := by
  simp [course_bind]

/-- A request whose answer is a fault or a value, and the value of the answer. -/
lemma course_queryOk {m : Method} {q : Request V m} {f : m.Answer V → Except Fault α}
    {r : Except Fault α} :
    (query q >>= fun x => ofAnswer (f x)).Course t r ↔
      ∃ x : m.Answer V, t = [.asked q x] ∧ r = f x := by
  change (∃ x u, t = .asked q x :: u ∧ (ofAnswer (f x)).Course u r) ↔ _
  simp only [course_ofAnswer]
  constructor
  · rintro ⟨x, _, rfl, rfl, hr⟩
    exact ⟨x, rfl, hr⟩
  · rintro ⟨x, rfl, hr⟩
    exact ⟨x, [], rfl, rfl, hr⟩

lemma course_queryOk_bind {m : Method} {q : Request V m} {f : m.Answer V → Except Fault α}
    {g : α → Program V β} {r : Except Fault β} :
    ((query q >>= fun x => ofAnswer (f x)) >>= g).Course t r ↔
      ∃ (x : m.Answer V) (u : List (Entry V)), t = .asked q x :: u ∧
        ((∃ e, f x = .error e ∧ u = [] ∧ r = .error e) ∨
          ∃ a, f x = .ok a ∧ (g a).Course u r) := by
  change (∃ x u, t = .asked q x :: u ∧ (ofAnswer (f x) >>= g).Course u r) ↔ _
  refine exists_congr fun x => exists_congr fun u => and_congr_right fun _ => ?_
  cases f x with
  | error e =>
    constructor
    · rintro ⟨rfl, rfl⟩
      exact .inl ⟨e, rfl, rfl, rfl⟩
    · rintro (⟨_, ⟨⟩, rfl, rfl⟩ | ⟨_, ⟨⟩, -⟩)
      exact ⟨rfl, rfl⟩
  | ok a =>
    constructor
    · intro h
      exact .inr ⟨a, rfl, h⟩
    · rintro (⟨_, ⟨⟩, -⟩ | ⟨_, ⟨⟩, h⟩)
      exact h

/-! ## The methods that are called -/

/-- The methods that are called on any course are those of `l`, in this order: all of them
if the program comes to a value. -/
def Follows (p : Program V α) (l : List Method) : Prop :=
  ∀ t r, p.Course t r → methods t <+: l ∧ ∀ a, r = .ok a → methods t = l

/-- No method is called on any course that is not in `l`. -/
def CallsOnly (p : Program V α) (l : List Method) : Prop :=
  ∀ t r, p.Course t r → methods t ⊆ l

lemma CallsOnly.mem_of_asked {l : List Method} (h : CallsOnly p l) {B : Backend V σ} {s : σ}
    {m : Method} {q : Request V m} {a : m.Answer V} (ha : .asked q a ∈ (p.run B s).trace) :
    m ∈ l := by
  have hcalled : m ∈ methods (requests (p.run B s).trace) := mem_methods (mem_requests.2 ha)
  exact h _ _ (course_run B p s) hcalled

lemma Follows.callsOnly {l : List Method} (h : Follows p l) : CallsOnly p l :=
  fun t r ht => (h t r ht).1.subset

end Program

end EcdsaVectors
