/-
Two outcomes side by side.

Two runs can be told apart by their results and by what they ask of the backend.  The
states that they leave may be of different types, and the events that they report may
differ: a store of keys that drops a key says so, and one that drops none has nothing to
say.  `Outcome.Matches R` says that the results and the requests are the same and that the
states are related by `R`; it is kept when runs are put one after the other
(`Outcome.Matches.andThen`).
-/
import Mathlib.Tactic.Lemma
import EcdsaVectors.Run
namespace EcdsaVectors

variable {V : Values} {σ τ α β : Type}

/-! ## The requests of a trace -/

/-- Whether an entry of a trace is a request. -/
def Entry.isRequest : Entry V → Bool
  | asked _ _ => true
  | event _ => false

/-- The requests of a trace with their answers, in order. -/
def requests (t : List (Entry V)) : List (Entry V) := t.filter Entry.isRequest

@[simp] lemma requests_nil : requests ([] : List (Entry V)) = [] := rfl

@[simp] lemma requests_append (t u : List (Entry V)) :
    requests (t ++ u) = requests t ++ requests u :=
  List.filter_append t u

@[simp] lemma requests_cons_event (e : Event) (t : List (Entry V)) :
    requests (.event e :: t) = requests t := rfl

@[simp] lemma requests_map_event (l : List Event) :
    requests (l.map (Entry.event (V := V))) = [] := by
  simp [requests, Entry.isRequest]

/-! ## Matching outcomes -/

namespace Outcome

/-- Two outcomes with the same result and the same requests, and with related states. -/
structure Matches (R : σ → τ → Prop) (o : Outcome V σ α) (p : Outcome V τ α) : Prop where
  result : o.result = p.result
  state : R o.state p.state
  requests : requests o.trace = requests p.trace

namespace Matches

variable {R S : σ → τ → Prop} {o : Outcome V σ α} {p : Outcome V τ α}

lemma mono (h : o.Matches R p) (hRS : ∀ s t, R s t → S s t) : o.Matches S p :=
  ⟨h.result, hRS _ _ h.state, h.requests⟩

/-- Entries in front of the traces do no harm if they hold the same requests. -/
lemma after {t u : List (Entry V)} (h : o.Matches R p)
    (htu : EcdsaVectors.requests t = EcdsaVectors.requests u) :
    (o.after t).Matches R (p.after u) := by
  refine ⟨h.result, h.state, ?_⟩
  simp only [Outcome.after, requests_append, htu, h.requests]

/-- Outcomes match after a further run each, if the further runs match from related
states.  A failure keeps the states of the first runs. -/
lemma andThen {f : α → σ → Outcome V σ β} {g : α → τ → Outcome V τ β} (h : o.Matches R p)
    (hfg : ∀ a s t, o.result = .ok a → R s t → (f a s).Matches S (g a t))
    (hRS : ∀ s t, R s t → S s t) : (o.andThen f).Matches S (p.andThen g) := by
  obtain ⟨r, s, t⟩ := o
  obtain ⟨r', s', t'⟩ := p
  obtain ⟨rfl, hs, ht⟩ := h
  cases r with
  | error e => exact ⟨rfl, hRS _ _ hs, ht⟩
  | ok a => exact (hfg a s s' rfl hs).after ht

end Matches

end Outcome

/-- A program that leaves the keys alone runs alike in two sessions with the same backend,
whatever keys they hold. -/
lemma Session.run_matches {κ κ' : Type} {B : Backend V σ} (p : Program V α)
    {s : Session κ σ} {t : Session κ' σ} (h : s.backend = t.backend) :
    (s.run B p).Matches
      (fun s' t' => s'.keys = s.keys ∧ t'.keys = t.keys ∧ s'.backend = t'.backend)
      (t.run B p) := by
  obtain ⟨k, b⟩ := s
  obtain ⟨k', b'⟩ := t
  obtain rfl : b = b' := h
  exact ⟨rfl, ⟨rfl, rfl, rfl⟩, rfl⟩

end EcdsaVectors
