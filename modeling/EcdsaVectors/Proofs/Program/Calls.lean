/-
The calls in a trace.

What can be told of the requests in a trace without looking at values is what methods are called
(`methods`), and with what argument as far as it can be shown (`calls`).
-/
import Mathlib.Tactic.Lemma
import EcdsaVectors.Proofs.Outcome.Matches
import EcdsaVectors.Program
namespace EcdsaVectors

variable {V : Values}

@[simp] lemma requests_cons_asked {m : Method} (q : Request V m) (a : m.Answer V)
    (t : List (Entry V)) : requests (.asked q a :: t) = .asked q a :: requests t := rfl

/-- A request is not lost among the events. -/
lemma mem_requests {m : Method} {q : Request V m} {a : m.Answer V} {t : List (Entry V)} :
    .asked q a ∈ requests t ↔ .asked q a ∈ t := by
  simp [requests, Entry.isRequest]

/-! ## Calls -/

/-- The method that is called by an entry of a trace, with the argument that can be shown. -/
def Entry.call? : Entry V → Option (Method × Option String)
  | @asked _ m q _ => some (m, q.argument?)
  | event _ => none

/-- The calls of a trace, in order. -/
def calls (t : List (Entry V)) : List (Method × Option String) := t.filterMap Entry.call?

@[simp] lemma calls_nil : calls ([] : List (Entry V)) = [] := rfl

@[simp] lemma calls_append (t u : List (Entry V)) : calls (t ++ u) = calls t ++ calls u :=
  List.filterMap_append

@[simp] lemma calls_cons_asked {m : Method} (q : Request V m) (a : m.Answer V)
    (t : List (Entry V)) : calls (.asked q a :: t) = (m, q.argument?) :: calls t := rfl

@[simp] lemma calls_cons_event (e : Event) (t : List (Entry V)) :
    calls (.event e :: t) = calls t := rfl

@[simp] lemma calls_map_event (l : List Event) :
    calls (l.map (Entry.event (V := V))) = [] := by
  induction l with
  | nil => rfl
  | cons e l ih => exact ih

/-- The events in a trace call nothing. -/
@[simp] lemma calls_requests (t : List (Entry V)) : calls (requests t) = calls t := by
  induction t with
  | nil => rfl
  | cons x t ih =>
    cases x with
    | asked q a => exact congrArg (List.cons _) ih
    | event e => exact ih

/-! ## Methods -/

/-- The methods that are called in a trace, in order. -/
def methods (t : List (Entry V)) : List Method := (calls t).map Prod.fst

@[simp] lemma methods_nil : methods ([] : List (Entry V)) = [] := rfl

@[simp] lemma methods_append (t u : List (Entry V)) :
    methods (t ++ u) = methods t ++ methods u := by
  rw [methods, calls_append, List.map_append, methods, methods]

@[simp] lemma methods_cons_asked {m : Method} (q : Request V m) (a : m.Answer V)
    (t : List (Entry V)) : methods (.asked q a :: t) = m :: methods t := rfl

@[simp] lemma methods_cons_event (e : Event) (t : List (Entry V)) :
    methods (.event e :: t) = methods t := rfl

@[simp] lemma methods_map_event (l : List Event) :
    methods (l.map (Entry.event (V := V))) = [] := by
  rw [methods, calls_map_event, List.map_nil]

@[simp] lemma methods_requests (t : List (Entry V)) : methods (requests t) = methods t := by
  rw [methods, calls_requests, methods]

/-- A request calls its method. -/
lemma mem_methods {m : Method} {q : Request V m} {a : m.Answer V} {t : List (Entry V)}
    (h : .asked q a ∈ t) : m ∈ methods t := by
  obtain ⟨u, v, rfl⟩ := List.append_of_mem h
  simp

/-- A method is called by a request. -/
lemma exists_of_mem_methods {m : Method} {t : List (Entry V)} (h : m ∈ methods t) :
    ∃ (q : Request V m) (a : m.Answer V), .asked q a ∈ t := by
  obtain ⟨call, hcall, rfl⟩ := List.mem_map.1 h
  obtain ⟨e, he, hcall⟩ := List.mem_filterMap.1 hcall
  cases e with
  | event e => cases hcall
  | asked q a =>
    obtain rfl := Option.some.inj hcall
    exact ⟨q, a, he⟩

end EcdsaVectors
