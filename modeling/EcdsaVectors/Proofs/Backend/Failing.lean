/-
Backends with a method that fails.

`B.failing x f` answers as `B` does, except that the method `x` goes wrong with the fault `f`
whenever it is called.  A call that goes wrong does nothing else, so the state stays as it was.
A program that does not call the method cannot tell the difference (`CallsOnly.run_failing`),
and one that cannot do without it is refused.
-/
import EcdsaVectors.Script
import EcdsaVectors.Proofs.Backend.Functional
import EcdsaVectors.Proofs.Run.Course
namespace EcdsaVectors

open Program

variable {V : Values} {α κ σ : Type}

/-- The backend with one method that fails.  The writing of numbers cannot fail. -/
def Backend.failing (B : Backend V σ) (x : Method) (f : Fault) : Backend V σ where
  respond {m} q b :=
    match if m = x then m.upset? V (.fault f) else none with
    | some a => ⟨a, b, []⟩
    | none => B.respond q b

variable {B : Backend V σ} {x : Method} {f : Fault}

lemma Backend.respond_failing_of_ne {m : Method} (h : m ≠ x) (q : Request V m) (b : σ) :
    (B.failing x f).respond q b = B.respond q b := by
  simp [failing, h]

lemma Backend.respond_failing_self {a : x.Answer V} (h : x.upset? V (.fault f) = some a)
    (q : Request V x) (b : σ) : (B.failing x f).respond q b = ⟨a, b, []⟩ := by
  simp [failing, h]

/-- A call that goes wrong does not depend on the state, and does not change it. -/
lemma Backend.Functional.failing (hB : B.Functional) : (B.failing x f).Functional where
  state {m} q hm b := by
    simp only [Backend.failing]
    cases (if m = x then m.upset? V (.fault f) else none) with
    | some a => rfl
    | none => exact hB.state q hm b
  answer {m} q hm b b' := by
    simp only [Backend.failing]
    cases (if m = x then m.upset? V (.fault f) else none) with
    | some a => rfl
    | none => exact hB.answer q hm b b'

/-! ## Without the method -/

/-- A program that does not call the method does not notice that it fails. -/
lemma Program.run_failing_of_not_mem {p : Program V α} {b : σ}
    (h : x ∉ methods (p.run B b).trace) : p.run (B.failing x f) b = p.run B b := by
  induction p generalizing b with
  | done a => rfl
  | fail e => rfl
  | log e p ih => simp only [run_log, ih h]
  | ask q k ih =>
    simp only [run_ask, Outcome.after, methods_append, methods_cons_asked, List.mem_append,
      List.mem_cons, not_or] at h
    obtain ⟨⟨hm, -⟩, hrest⟩ := h
    simp only [run_ask, Backend.respond_failing_of_ne (Ne.symm hm) q b, ih _ hrest]

lemma Program.CallsOnly.run_failing {p : Program V α} {l : List Method} (hp : p.CallsOnly l)
    (hx : x ∉ l) (b : σ) : p.run (B.failing x f) b = p.run B b := by
  refine run_failing_of_not_mem fun h => hx ?_
  rw [← methods_requests] at h
  exact hp _ _ (course_run B p b) h

lemma TestCase.run_task_failing (c : TestCase) (hx : x ∉ [.curve, .digest]) (s : Session κ σ) :
    s.run (B.failing x f) (c.task : Program V (Task V)) = s.run B c.task := by
  rw [Session.run, (callsOnly_task c).run_failing hx, Session.run]

lemma Session.fetch_failing (K : KeyStore V κ) (g : UInt32) (cv : V.Curve)
    (hx : x ∉ [.generateKeyPair, .publicKey, .coordinates, .octetsOfInteger, .octetsOfInteger])
    (s : Session κ σ) : s.fetch K (B.failing x f) g cv = s.fetch K B g cv := by
  have hgenerate (b : σ) : (GroupKey.generate g cv).run (B.failing x f) b =
      (GroupKey.generate g cv).run B b :=
    (GroupKey.follows_generate g cv).callsOnly.run_failing hx b
  simp only [fetch, Session.run, hgenerate]

/-! ## With the method -/

/-- A program that cannot do without the method is refused. -/
lemma Program.Keeps.exists_fault_failing {p : Program V α} {l : List (Station V)} {L : List Event}
    (hp : p.Keeps l (fun _ => False) L) (hx : x ∈ l.filterMap Station.method?)
    (hwrong : (x.upset? V (.fault f)).isSome) (b : σ) :
    ∃ e, (p.run (B.failing x f) b).result = .error e := by
  obtain ⟨a, ha⟩ := Option.isSome_iff_exists.1 hwrong
  exact hp.exists_fault hx (fun q b => ⟨f, by rw [Backend.respond_failing_self ha, ha]⟩) b

lemma TestCase.exists_fault_task (c : TestCase) (hm : c.mode = .sigGen) (hx : x ∈ [.curve, .digest])
    (b : σ) : ∃ e, ((c.task : Program V (Task V)).run (B.failing x f) b).result = .error e := by
  have hroute := keeps_task (V := V) c
  rw [nameRoute, hm] at hroute
  refine hroute.exists_fault_failing hx ?_ b
  simp only [List.mem_cons, List.not_mem_nil, or_false] at hx
  rcases hx with rfl | rfl <;> rfl

lemma GroupKey.exists_fault_generate (g : UInt32) (cv : V.Curve)
    (hx : x ∈ [.publicKey, .coordinates]) (b : σ) :
    ∃ e, ((GroupKey.generate g cv).run (B.failing x f) b).result = .error e := by
  simp only [List.mem_cons, List.not_mem_nil, or_false] at hx
  rcases hx with rfl | rfl
  · exact (keeps_generate g cv).exists_fault_failing (by simp) rfl b
  · exact (keeps_generate g cv).exists_fault_failing (by simp) rfl b

lemma exists_fault_makeSignature (k : GroupKey V) (d : V.Digest) (m : Octets)
    (hx : x ∈ [.sign, .components]) (b : σ) :
    ∃ e, ((makeSignature k d m).run (B.failing x f) b).result = .error e := by
  simp only [List.mem_cons, List.not_mem_nil, or_false] at hx
  rcases hx with rfl | rfl
  · exact (keeps_makeSignature k d m).exists_fault_failing (by simp) rfl b
  · exact (keeps_makeSignature k d m).exists_fault_failing (by simp) rfl b

end EcdsaVectors
