/-
The three ways in which a run can go.

The names in the case are not known (`TestCase.run_of_unknown`); they are known, and the task
fails (`TestCase.run_of_fault`) or has an output (`TestCase.run_of_output`).  Only the last
way is that of a success (`TestCase.exists_output`).
-/
import Mathlib.Tactic.Lemma
import EcdsaVectors.Run
namespace EcdsaVectors.TestCase

variable {V : Values} {κ σ : Type} {K : KeyStore V κ} {B : Backend V σ} {c : TestCase}
  {s : Session κ σ} {task : Task V}

lemma run_of_unknown {f : Fault} (h : (s.run B c.task).result = .error f) :
    c.run K B s = c.failed f (s.run B c.task).state (s.run B c.task).trace := by
  simp only [run, h]

lemma run_of_fault {f : Fault} (h : (s.run B c.task).result = .ok task)
    (hf : (task.perform K B (s.run B c.task).state).result = .error f) :
    c.run K B s = (c.begin task).failed f (task.perform K B (s.run B c.task).state).state
      ((s.run B c.task).trace ++ (task.perform K B (s.run B c.task).state).trace) := by
  simp only [run, h, Outcome.after, hf]

lemma run_of_output {o : Output} (h : (s.run B c.task).result = .ok task)
    (ho : (task.perform K B (s.run B c.task).state).result = .ok o) :
    c.run K B s = ⟨.ok (), (c.begin task).record o,
      (task.perform K B (s.run B c.task).state).state,
      c.opening :: ((s.run B c.task).trace ++
        (task.perform K B (s.run B c.task).state).trace)⟩ := by
  simp only [run, h, Outcome.after, ho]

lemma exists_output (h : (c.run K B s).result = .ok ()) :
    ∃ task o, (s.run B c.task).result = .ok task ∧
      (task.perform K B (s.run B c.task).state).result = .ok o ∧
      (c.run K B s).case = (c.begin task).record o ∧
      (c.run K B s).session = (task.perform K B (s.run B c.task).state).state := by
  cases hr : (s.run B c.task).result with
  | error f =>
    rw [run_of_unknown hr] at h
    cases h
  | ok task =>
    cases hd : (task.perform K B (s.run B c.task).state).result with
    | error f =>
      rw [run_of_fault hr hd] at h
      cases h
    | ok o =>
      rw [run_of_output hr hd]
      exact ⟨task, o, rfl, hd, rfl, rfl⟩

/-- A case whose names are known leaves the session that its task leaves. -/
lemma session_run (h : (s.run B c.task).result = .ok task) :
    (c.run K B s).session = (task.perform K B (s.run B c.task).state).state := by
  cases hd : (task.perform K B (s.run B c.task).state).result with
  | error f => rw [run_of_fault h hd]; rfl
  | ok o => rw [run_of_output h hd]

end EcdsaVectors.TestCase
