/-
Programs: what is to be asked of a backend, and what is done with the answers.

A program is a tree.  At a node it asks a request and goes on by the answer, or reports an
event; at a leaf it gives a value or fails.  It does not say who answers, so that one and the
same program runs on every backend, and whatever is shown of the tree holds on all of them.

* `run_bind`: to run one program after another is to run the second from the state that the
  first leaves, with the second trace after the first, unless the first fails.
-/
import EcdsaVectors.Backend
namespace EcdsaVectors

/-- A program that gives a value of type `α`. -/
inductive Program (V : Values) (α : Type) where
  | done (value : α)
  | fail (fault : Fault)
  | log (event : Event) (rest : Program V α)
  | ask {m : Method} (request : Request V m) (rest : m.Answer V → Program V α)

/-- What a run leaves: a result, the state after it, and the trace of requests and events. -/
structure Outcome (V : Values) (σ α : Type) where
  result : Except Fault α
  state : σ
  trace : List (Entry V)

variable {V : Values} {σ τ α β : Type}

namespace Outcome

/-- Goes on from an outcome, unless it has failed. -/
def andThen (o : Outcome V σ α) (f : α → σ → Outcome V σ β) : Outcome V σ β :=
  match o.result with
  | .error e => ⟨.error e, o.state, o.trace⟩
  | .ok a => let p := f a o.state; { p with trace := o.trace ++ p.trace }

/-- The outcome with some entries in front of its trace. -/
def after (t : List (Entry V)) (o : Outcome V σ α) : Outcome V σ α :=
  { o with trace := t ++ o.trace }

/-- The outcome seen from a larger state. -/
def mapState (f : σ → τ) (o : Outcome V σ α) : Outcome V τ α :=
  ⟨o.result, f o.state, o.trace⟩

@[simp] theorem andThen_ok (a : α) (s : σ) (t : List (Entry V)) (f : α → σ → Outcome V σ β) :
    (Outcome.mk (.ok a) s t).andThen f = (f a s).after t := rfl

@[simp] theorem andThen_error (e : Fault) (s : σ) (t : List (Entry V)) (f : α → σ → Outcome V σ β) :
    (Outcome.mk (.error e) s t).andThen f = ⟨.error e, s, t⟩ := rfl

/-- To go on from a value is to put its trace in front of what follows. -/
theorem andThen_of_ok {o : Outcome V σ α} {a : α} (h : o.result = .ok a)
    (f : α → σ → Outcome V σ β) : o.andThen f = (f a o.state).after o.trace := by
  simp only [andThen, h, after]

/-- What follows a fault is not run. -/
theorem andThen_of_error {o : Outcome V σ α} {e : Fault} (h : o.result = .error e)
    (f : α → σ → Outcome V σ β) : o.andThen f = ⟨.error e, o.state, o.trace⟩ := by
  simp only [andThen, h]

/-- An outcome that has gone on to a value has had a value before. -/
theorem exists_of_andThen {o : Outcome V σ α} {f : α → σ → Outcome V σ β} {b : β}
    (h : (o.andThen f).result = .ok b) :
    ∃ a, o.result = .ok a ∧ (f a o.state).result = .ok b ∧
      (o.andThen f).state = (f a o.state).state := by
  cases hr : o.result with
  | error e =>
    rw [andThen_of_error hr] at h
    cases h
  | ok a =>
    rw [andThen_of_ok hr] at h ⊢
    exact ⟨a, rfl, h, rfl⟩

@[simp] theorem after_nil (o : Outcome V σ α) : o.after [] = o := rfl

@[simp] theorem after_mk (t u : List (Entry V)) (r : Except Fault α) (s : σ) :
    (Outcome.mk r s u).after t = ⟨r, s, t ++ u⟩ := rfl

@[simp] theorem mapState_mk (f : σ → τ) (r : Except Fault α) (s : σ) (t : List (Entry V)) :
    (Outcome.mk r s t).mapState f = ⟨r, f s, t⟩ := rfl

theorem andThen_after (t : List (Entry V)) (o : Outcome V σ α) (f : α → σ → Outcome V σ β) :
    (o.after t).andThen f = (o.andThen f).after t := by
  cases h : o.result <;> simp [andThen, after, h]

end Outcome

namespace Program

/-- One program after another. -/
protected def bind : Program V α → (α → Program V β) → Program V β
  | done a, f => f a
  | fail e, _ => fail e
  | log e p, f => log e (p.bind f)
  | ask q k, f => ask q fun a => (k a).bind f

instance : Monad (Program V) where
  pure := done
  bind := Program.bind

/-- Reports an event. -/
abbrev report (e : Event) : Program V Unit := log e (done ())

/-- Asks a request and takes the answer as it is. -/
abbrev query {m : Method} (q : Request V m) : Program V (m.Answer V) := ask q done

/-- The value of an answer that is no fault. -/
def ofAnswer : Except Fault α → Program V α
  | .ok a => done a
  | .error e => fail e

/-- Reports an event and fails. -/
abbrev refuse (e : Event) (f : Fault) : Program V α := log e (fail f)

/-- Runs a program on a backend. -/
def run (B : Backend V σ) : Program V α → σ → Outcome V σ α
  | done a, s => ⟨.ok a, s, []⟩
  | fail e, s => ⟨.error e, s, []⟩
  | log e p, s => (run B p s).after [.event e]
  | ask q k, s =>
    let r := B.respond q s
    (run B (k r.answer) r.state).after (.asked q r.answer :: r.events.map .event)

variable (B : Backend V σ)

@[simp] theorem run_pure (a : α) (s : σ) :
    (pure a : Program V α).run B s = ⟨.ok a, s, []⟩ := rfl

@[simp] theorem run_done (a : α) (s : σ) : (done a : Program V α).run B s = ⟨.ok a, s, []⟩ := rfl

@[simp] theorem run_fail (e : Fault) (s : σ) :
    (fail e : Program V α).run B s = ⟨.error e, s, []⟩ := rfl

@[simp] theorem run_log (e : Event) (p : Program V α) (s : σ) :
    (log e p).run B s = (p.run B s).after [.event e] := rfl

/-- A request is written down before the events that the backend reports while it answers. -/
@[simp] theorem run_ask {m : Method} (q : Request V m) (k : m.Answer V → Program V α) (s : σ) :
    (ask q k).run B s =
      ((k (B.respond q s).answer).run B (B.respond q s).state).after
        (.asked q (B.respond q s).answer :: (B.respond q s).events.map .event) := rfl

@[simp] theorem run_ofAnswer (a : Except Fault α) (s : σ) :
    (ofAnswer a : Program V α).run B s = ⟨a, s, []⟩ := by
  cases a <;> rfl

/-- **One program after another** is run from the state that the first leaves, unless the first
fails. -/
@[simp] theorem run_bind (p : Program V α) (f : α → Program V β) (s : σ) :
    (p >>= f).run B s = (p.run B s).andThen fun a t => (f a).run B t := by
  change (p.bind f).run B s = _
  induction p generalizing s with
  | done a => rfl
  | fail e => rfl
  | log e p ih => simp [Program.bind, run, ih, Outcome.andThen_after]
  | ask q k ih => simp [Program.bind, run, ih, Outcome.andThen_after]

@[simp] theorem run_map (f : α → β) (p : Program V α) (s : σ) :
    (f <$> p).run B s = (p.run B s).andThen fun a t => ⟨.ok (f a), t, []⟩ :=
  run_bind B p (fun a => done (f a)) s

instance : LawfulMonad (Program V) :=
  LawfulMonad.mk' (Program V)
    (fun p => by
      change p.bind done = p
      induction p with
      | done a => rfl
      | fail e => rfl
      | log e p ih => simp [Program.bind, ih]
      | ask q k ih => simp [Program.bind, ih])
    (fun _ _ => rfl)
    (fun p f g => by
      change (p.bind f).bind g = p.bind fun a => (f a).bind g
      induction p with
      | done a => rfl
      | fail e => rfl
      | log e p ih => simp [Program.bind, ih]
      | ask q k ih => simp [Program.bind, ih])

end Program

end EcdsaVectors
