/-
The courses that a run can take.

What is asked for a test case is told request by request, for every answer that a backend can
give.  First the names in the case are looked up: they are `Resolved` to a task, or else
`Unresolved`, with a fault that names the one that is not known.  Then the task is performed,
and what it asks comes after (`TestCase.requests_run`).
-/
import EcdsaVectors.Proofs.Codec.Course
import EcdsaVectors.Proofs.Run
namespace EcdsaVectors

open Program

variable {V : Values} {κ σ : Type} {t : List (Entry V)} {f : Fault}

/-! ## The names in a case -/

namespace TestCase

variable {c : TestCase}

/-- The names in a case are known, and give its task by the requests in the list. -/
inductive Resolved (c : TestCase) : Task V → List (Entry V) → Prop
  | keyGen (hm : c.mode = .keyGen) (cv : V.Curve) :
    Resolved c (.keyGen cv) [.asked (.curve c.curve) (some cv)]
  | keyVer (hm : c.mode = .keyVer) (cv : V.Curve) :
    Resolved c (.keyVer cv c.qx c.qy) [.asked (.curve c.curve) (some cv)]
  | sigGen (hm : c.mode = .sigGen) {name : HashName} (hh : c.hash = some name)
      (cv : V.Curve) (h : V.Digest) :
    Resolved c (.sigGen cv h c.group c.message)
      [.asked (.curve c.curve) (some cv), .asked (.digest name) (some h)]
  | sigVer (hm : c.mode = .sigVer) {name : HashName} (hh : c.hash = some name)
      (cv : V.Curve) (h : V.Digest) :
    Resolved c (.sigVer cv h c.message c.qx c.qy c.r c.s)
      [.asked (.curve c.curve) (some cv), .asked (.digest name) (some h)]

/-- A name in a case is not known, or the name of a hash function is missing: the fault that
tells so, and the requests in the list. -/
inductive Unresolved (c : TestCase) : Fault → List (Entry V) → Prop
  | curve : Unresolved c (.unsupportedCurve c.curve) [.asked (.curve c.curve) none]
  | noHash (hm : c.mode = .sigGen ∨ c.mode = .sigVer) (hh : c.hash = none) (cv : V.Curve) :
    Unresolved c .missingHash [.asked (.curve c.curve) (some cv)]
  | hash (hm : c.mode = .sigGen ∨ c.mode = .sigVer) {name : HashName}
      (hh : c.hash = some name) (cv : V.Curve) :
    Unresolved c (.unsupportedHash name)
      [.asked (.curve c.curve) (some cv), .asked (.digest name) none]

lemma resolved_of_course {task : Task V} (h : c.task.Course t (.ok task)) :
    c.Resolved task t := by
  obtain ⟨cv, u, v, rfl, hu, hv⟩ := course_bind_ok.1 h
  obtain rfl := Codec.course_lookUpCurve_ok.1 hu
  cases hm : c.mode with
  | keyGen =>
    rw [hm] at hv
    obtain ⟨rfl, ⟨⟩⟩ := hv
    exact .keyGen hm cv
  | keyVer =>
    rw [hm] at hv
    obtain ⟨rfl, ⟨⟩⟩ := hv
    exact .keyVer hm cv
  | sigGen =>
    rw [hm] at hv
    obtain ⟨_, u', v', rfl, hu', rfl, ⟨⟩⟩ := course_bind_ok.1 hv
    obtain ⟨name, hh, rfl⟩ := Codec.course_lookUpHash_ok.1 hu'
    exact .sigGen hm hh cv _
  | sigVer =>
    rw [hm] at hv
    obtain ⟨_, u', v', rfl, hu', rfl, ⟨⟩⟩ := course_bind_ok.1 hv
    obtain ⟨name, hh, rfl⟩ := Codec.course_lookUpHash_ok.1 hu'
    exact .sigVer hm hh cv _

lemma unresolved_of_course_lookUpHash {u : List (Entry V)} {cv : V.Curve}
    {k : V.Digest → Task V} (hm : c.mode = .sigGen ∨ c.mode = .sigVer)
    (h : (Codec.lookUpHash c.hash >>= fun d => pure (k d)).Course u (.error f)) :
    c.Unresolved f (.asked (.curve c.curve) (some cv) :: u) := by
  rcases course_bind_error.1 h with h | ⟨d, u', v', rfl, -, hv'⟩
  · rcases Codec.course_lookUpHash_error.1 h with ⟨hh, rfl, rfl⟩ | ⟨name, hh, rfl, rfl⟩
    · exact .noHash hm hh cv
    · exact .hash hm hh cv
  · cases hv'.2

lemma unresolved_of_course (h : c.task.Course t (.error f)) : c.Unresolved f t := by
  rcases course_bind_error.1 h with h | ⟨cv, u, v, rfl, hu, hv⟩
  · obtain ⟨rfl, rfl⟩ := Codec.course_lookUpCurve_error.1 h
    exact .curve
  obtain rfl := Codec.course_lookUpCurve_ok.1 hu
  cases hm : c.mode with
  | keyGen =>
    rw [hm] at hv
    cases hv.2
  | keyVer =>
    rw [hm] at hv
    cases hv.2
  | sigGen =>
    rw [hm] at hv
    exact unresolved_of_course_lookUpHash (.inl hm) hv
  | sigVer =>
    rw [hm] at hv
    exact unresolved_of_course_lookUpHash (.inr hm) hv

/-- No curve is looked up but that of the case. -/
lemma curve_of_course {C : CurveName} {a : Option V.Curve} {r : Except Fault (Task V)}
    (h : c.task.Course t r) (ha : .asked (.curve C) a ∈ t) : C = c.curve := by
  cases r with
  | error f => cases unresolved_of_course h <;> simp_all
  | ok task => cases resolved_of_course h <;> simp_all

/-- Names are looked up, and nothing else is asked for. -/
lemma callsOnly_task (c : TestCase) :
    CallsOnly (c.task : Program V (Task V)) [.curve, .digest] := by
  rintro t (f | task) h
  · cases unresolved_of_course h <;> simp
  · cases resolved_of_course h <;> simp

/-! ## The requests of a run -/

variable {K : KeyStore V κ} {B : Backend V σ} {s : Session κ σ}

lemma unresolved_of_result (h : (s.run B c.task).result = .error f) :
    c.Unresolved f (requests (s.run B c.task).trace) := by
  have hcourse := course_run B c.task s.backend
  exact unresolved_of_course (h ▸ hcourse)

lemma resolved_of_result {task : Task V} (h : (s.run B c.task).result = .ok task) :
    c.Resolved task (requests (s.run B c.task).trace) := by
  have hcourse := course_run B c.task s.backend
  exact resolved_of_course (h ▸ hcourse)

lemma exists_respond_of_task (ht : requests (s.run B c.task).trace = t) {m : Method}
    {q : Request V m} {a : m.Answer V} (h : .asked q a ∈ t) : ∃ b, (B.respond q b).answer = a :=
  exists_respond_of_requests (p := c.task) (s := s.backend) ht h

/-- A case whose names are not known asks for nothing else. -/
lemma requests_run_of_unknown (h : (s.run B c.task).result = .error f) :
    requests (c.run K B s).trace = requests (s.run B c.task).trace := by
  rw [run_of_unknown h]
  simp [failed, opening]

/-- The task of a case is performed after its names have been looked up. -/
lemma requests_run {task : Task V} (h : (s.run B c.task).result = .ok task) :
    requests (c.run K B s).trace = requests (s.run B c.task).trace ++
      requests (task.perform K B (s.run B c.task).state).trace := by
  cases hd : (task.perform K B (s.run B c.task).state).result with
  | error f =>
    rw [run_of_fault h hd]
    simp [failed, opening]
  | ok o =>
    rw [run_of_output h hd]
    simp [opening]

end TestCase

/-! ## The programs of a run -/

/-- The entry stands in the trace of a program by which the task is performed. -/
inductive Task.Holds (B : Backend V σ) (e : Entry V) : Task V → Prop
  | keyGen {cv : V.Curve} {b : σ} (h : e ∈ ((makeKey cv).run B b).trace) : Holds B e (.keyGen cv)
  | keyVer {cv : V.Curve} {qx qy : Octets} {b : σ} (h : e ∈ ((checkKey cv qx qy).run B b).trace) :
    Holds B e (.keyVer cv qx qy)
  | generate {cv : V.Curve} {d : V.Digest} {g : UInt32} {m : Octets} {b : σ}
      (h : e ∈ ((GroupKey.generate g cv).run B b).trace) : Holds B e (.sigGen cv d g m)
  | sign {cv : V.Curve} {d : V.Digest} {g : UInt32} {m : Octets} {k : GroupKey V} {b : σ}
      (h : e ∈ ((makeSignature k d m).run B b).trace) : Holds B e (.sigGen cv d g m)
  | sigVer {cv : V.Curve} {d : V.Digest} {m qx qy r s : Octets} {b : σ}
      (h : e ∈ ((checkSignature cv d m qx qy r s).run B b).trace) :
    Holds B e (.sigVer cv d m qx qy r s)

section

variable {K : KeyStore V κ} {B : Backend V σ} {s : Session κ σ} {m : Method} {q : Request V m}
  {a : m.Answer V}

lemma Session.asked_of_fetch {g : UInt32} {cv : V.Curve}
    (h : .asked q a ∈ (s.fetch K B g cv).trace) :
    ∃ b, .asked q a ∈ ((GroupKey.generate g cv).run B b).trace := by
  unfold fetch at h
  cases hk : K.find? s.keys g with
  | some k =>
    rw [hk] at h
    simp at h
  | none =>
    refine ⟨s.backend, ?_⟩
    rw [hk] at h
    simp only [Outcome.after, List.mem_append, List.mem_map, reduceCtorEq, and_false,
      exists_false, false_or] at h
    -- nothing is asked when the key is put into the store
    cases hr : ((GroupKey.generate g cv).run B s.backend).result with
    | error f =>
      rwa [Outcome.andThen_of_error (by exact hr)] at h
    | ok k =>
      rw [Outcome.andThen_of_ok (by exact hr)] at h
      rcases List.mem_append.1 h with h | h
      · exact h
      · cases h

lemma Task.holds_of_perform {task : Task V} (h : .asked q a ∈ (task.perform K B s).trace) :
    task.Holds B (.asked q a) := by
  cases task with
  | keyGen cv => exact .keyGen h
  | keyVer cv qx qy => exact .keyVer h
  | sigVer cv d m qx qy r s' => exact .sigVer h
  | sigGen cv d g m =>
    rw [perform] at h
    cases hf : (s.fetch K B g cv).result with
    | error f =>
      rw [Outcome.andThen_of_error hf] at h
      obtain ⟨b, hb⟩ := Session.asked_of_fetch h
      exact .generate hb
    | ok f =>
      rw [Outcome.andThen_of_ok hf] at h
      rcases List.mem_append.1 h with h | h
      · obtain ⟨b, hb⟩ := Session.asked_of_fetch h
        exact .generate hb
      · exact .sign h

/-- What is asked in the run of a case is asked in looking up its names, or by one of the programs
of its task. -/
theorem TestCase.holds_of_run {c : TestCase} (h : .asked q a ∈ (c.run K B s).trace) :
    .asked q a ∈ (s.run B c.task).trace ∨
      ∃ task, (s.run B c.task).result = .ok task ∧ task.Holds B (.asked q a) := by
  rw [← mem_requests] at h
  cases hr : (s.run B c.task).result with
  | error f =>
    rw [requests_run_of_unknown hr, mem_requests] at h
    exact .inl h
  | ok task =>
    rw [requests_run hr, List.mem_append, mem_requests, mem_requests] at h
    exact h.imp_right fun h => ⟨task, rfl, Task.holds_of_perform h⟩

end

end EcdsaVectors
