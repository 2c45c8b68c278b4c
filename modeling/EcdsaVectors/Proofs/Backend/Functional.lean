/-
Backends whose answers depend on the request alone.

A `Functional` backend has a state for one purpose only: the making of key pairs, of which it
gives another at each request.  All other requests leave the state as it is, and have the same
answer in every state.  So a program that makes no key pair leaves no trace in the backend
(`Backend.Functional.state_run`).

Of such a backend it is often enough to know that it is `Uniform`: whatever its state may be
for, the answers do not depend on it.  Then a program that makes no key pair comes to the same
in all states, by the same requests (`Backend.Uniform.run_eq`).
-/
import EcdsaVectors.Proofs.Backend.FixedWidth
import EcdsaVectors.Proofs.Program.Course
namespace EcdsaVectors

open Program

variable {V : Values} {α κ σ : Type}

/-- A backend whose state serves the making of key pairs only. -/
structure Backend.Functional (B : Backend V σ) : Prop where
  state {m : Method} (q : Request V m) (hm : m ≠ .generateKeyPair) (s : σ) :
    (B.respond q s).state = s
  answer {m : Method} (q : Request V m) (hm : m ≠ .generateKeyPair) (s s' : σ) :
    (B.respond q s).answer = (B.respond q s').answer

namespace Backend.Functional

variable {B : Backend V σ} {p : Program V α}

/-- The state changes only where a key pair is asked for. -/
lemma state_run_of_not_mem (hB : B.Functional) {s : σ}
    (h : .generateKeyPair ∉ methods (p.run B s).trace) : (p.run B s).state = s := by
  induction p generalizing s with
  | done a => rfl
  | fail e => rfl
  | log e p ih => exact ih h
  | ask q k ih =>
    simp only [run_ask, Outcome.after, methods_append, methods_cons_asked, List.mem_append,
      List.mem_cons, not_or] at h ⊢
    obtain ⟨⟨hm, -⟩, hrest⟩ := h
    rw [ih _ hrest]
    exact hB.state q (Ne.symm hm) s

/-- A program that makes no key pair leaves the state as it was. -/
lemma state_run_of_callsOnly (hB : B.Functional) {l : List Method} (hp : p.CallsOnly l)
    (hl : .generateKeyPair ∉ l) (b : σ) : (p.run B b).state = b := by
  have hcalls := hp _ _ (course_run B p b)
  rw [methods_requests] at hcalls
  exact hB.state_run_of_not_mem fun h => hl (hcalls h)

lemma state_run (hB : B.Functional) {l : List Method} (hp : p.CallsOnly l)
    (hl : .generateKeyPair ∉ l) (s : Session κ σ) : (s.run B p).state = s := by
  rw [Session.run, Outcome.mapState, hB.state_run_of_callsOnly hp hl]

/-- What has been answered once is answered always. -/
lemma answer_of_asked (hB : B.Functional) {b : σ} {m : Method} {q : Request V m}
    {a : m.Answer V} (hm : m ≠ .generateKeyPair) (h : .asked q a ∈ (p.run B b).trace) (b' : σ) :
    (B.respond q b').answer = a := by
  obtain ⟨b₀, rfl⟩ := exists_respond_of_asked h
  exact hB.answer q hm b' b₀

lemma answer_of_requests (hB : B.Functional) {b : σ} {l : List (Entry V)}
    (hl : requests (p.run B b).trace = l) {m : Method} {q : Request V m} {a : m.Answer V}
    (hm : m ≠ .generateKeyPair) (h : .asked q a ∈ l) (b' : σ) : (B.respond q b').answer = a :=
  hB.answer_of_asked hm (mem_requests.1 (hl.symm ▸ h)) b'

end Backend.Functional

/-- A backend whose answers do not depend on its state, those that give a key pair apart. -/
def Backend.Uniform (B : Backend V σ) : Prop :=
  ∀ {m : Method} (q : Request V m), m ≠ .generateKeyPair → ∀ s s' : σ,
    (B.respond q s).answer = (B.respond q s').answer

lemma Backend.Functional.uniform {B : Backend V σ} (hB : B.Functional) : B.Uniform :=
  fun q hm s s' => hB.answer q hm s s'

/-- A program that makes no key pair in one state comes to the same in all states. -/
lemma Backend.Uniform.run_eq_of_not_mem {B : Backend V σ} {p : Program V α} (hB : B.Uniform)
    {s : σ} (h : .generateKeyPair ∉ methods (p.run B s).trace) (t : σ) :
    (p.run B t).result = (p.run B s).result ∧
      requests (p.run B t).trace = requests (p.run B s).trace := by
  induction p generalizing s t with
  | done a => exact ⟨rfl, rfl⟩
  | fail e => exact ⟨rfl, rfl⟩
  | log e p ih => exact ih h t
  | ask q k ih =>
    simp only [run_ask, Outcome.after, methods_append, methods_cons_asked, List.mem_append,
      List.mem_cons, not_or] at h
    obtain ⟨⟨hm, -⟩, hrest⟩ := h
    -- both go on with the same answer
    have hanswer := hB q (Ne.symm hm) t s
    obtain ⟨hresult, hrequests⟩ := ih _ hrest (B.respond q t).state
    simp only [run_ask, Outcome.after, hanswer, requests_append, requests_cons_asked,
      requests_map_event, hresult, hrequests, and_self]

/-- A program that makes no key pair comes to the same in all states. -/
lemma Backend.Uniform.run_eq {B : Backend V σ} {p : Program V α} (hB : B.Uniform)
    {l : List Method} (hp : p.CallsOnly l) (hl : .generateKeyPair ∉ l) (s t : σ) :
    (p.run B t).result = (p.run B s).result ∧
      requests (p.run B t).trace = requests (p.run B s).trace := by
  have hcalls := hp _ _ (course_run B p s)
  rw [methods_requests] at hcalls
  exact hB.run_eq_of_not_mem (fun h => hl (hcalls h)) t

/-- The backend on strings of octets draws random numbers for the making of key pairs only. -/
lemma FixedWidth.functional (domains : CurveName → Domain) :
    (Backend.fixedWidth domains).Functional where
  state q hm s := by
    cases q with
    | generateKeyPair C => exact absurd rfl hm
    | _ => rfl
  answer q hm s s' := by
    cases q with
    | generateKeyPair C => exact absurd rfl hm
    | _ => rfl

end EcdsaVectors
