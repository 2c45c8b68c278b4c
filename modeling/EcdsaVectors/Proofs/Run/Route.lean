/-
The route of a run.

The mode of a case fixes what is asked for it and in which order, and where it is checked what
the case holds.  A hash function must be named before it is looked up.  A component of a
signature is checked when it is its turn to be read, but both coordinates of a point are checked
before either is read.  For a signature it also depends on the slot whether a key is made.

* `Mode.sequence`: the methods that are called for a mode, if all goes well;
* `TestCase.route`: the stations of a run, checks and requests;
* `TestCase.goes_run`: each run goes along the route of its case, and the first station that is
  not passed decides what it comes to.
-/
import EcdsaVectors.Scenario
import EcdsaVectors.Proofs.GroupKey.Fetch
import EcdsaVectors.Proofs.Codec.Route
import EcdsaVectors.Proofs.Run.Course
namespace EcdsaVectors

open Program

variable {V : Values} {κ σ : Type}

/-! ## The routes -/

/-- The methods that are called for a mode if all goes well.  It is told whether the slot has a
key of the group. -/
def Mode.sequence (kept : Bool) : Mode → List Method
  | keyGen => [.curve, .generateKeyPair, .privateScalar, .publicKey, .coordinates,
      .octetsOfInteger, .octetsOfInteger, .octetsOfInteger]
  | keyVer => [.curve, .integerOfOctets, .integerOfOctets, .publicKeyOfCoordinates]
  | sigGen => [.curve, .digest] ++
      (if kept then [] else
        [.generateKeyPair, .publicKey, .coordinates, .octetsOfInteger, .octetsOfInteger]) ++
      [.sign, .components, .octetsOfInteger, .octetsOfInteger]
  | sigVer => [.curve, .digest, .integerOfOctets, .integerOfOctets, .signatureOfComponents,
      .integerOfOctets, .integerOfOctets, .publicKeyOfCoordinates, .verify]

/-- The route of fetching the key of a group from the slot. -/
def Slot.route (slot : Slot V) (g : UInt32) : List (Station V) :=
  if (slot.find? g).isSome then [] else
    [.any .generateKeyPair, .any .publicKey, .any .coordinates, .any .octetsOfInteger,
      .any .octetsOfInteger]

namespace TestCase

/-- The route of the task of a case, with the slot that it finds. -/
def taskRoute (c : TestCase) (slot : Slot V) : List (Station V) :=
  match c.mode with
  | .keyGen => [.any .generateKeyPair, .any .privateScalar, .any .publicKey, .any .coordinates,
      .any .octetsOfInteger, .any .octetsOfInteger, .any .octetsOfInteger]
  | .keyVer => Codec.pointRoute c.qx c.qy
  | .sigGen => slot.route c.group ++
      [.any .sign, .any .components, .any .octetsOfInteger, .any .octetsOfInteger]
  | .sigVer => Codec.scalarRoute c.r ++ Codec.scalarRoute c.s ++ [.any .signatureOfComponents] ++
      (Codec.pointRoute c.qx c.qy ++ [.any .verify])

/-- The route of a case, with the slot that it finds. -/
def route (c : TestCase) (slot : Slot V) : List (Station V) := c.nameRoute ++ c.taskRoute slot

lemma methods_route (c : TestCase) (slot : Slot V) :
    (c.route slot).filterMap Station.method? =
      c.mode.sequence (slot.find? c.group).isSome := by
  unfold route nameRoute taskRoute
  cases c.mode with
  | keyGen => rfl
  | keyVer => rfl
  | sigVer => rfl
  | sigGen =>
    unfold Slot.route
    cases (slot.find? c.group).isSome <;> rfl

end TestCase

/-! ## Tasks -/

/-- The requests by which the key of a group is fetched go along the route that the slot tells. -/
lemma Session.goes_fetch_slot (B : Backend V σ) (s : Session (Slot V) σ) (g : UInt32)
    (cv : V.Curve) :
    (∀ f, (s.fetch (.slot V) B g cv).result = .error f →
      Cut (s.keys.route g) (requests (s.fetch (.slot V) B g cv).trace) (.error f)) ∧
    ∀ k, (s.fetch (.slot V) B g cv).result = .ok k →
      Passes (s.keys.route g) (requests (s.fetch (.slot V) B g cv).trace) := by
  cases hk : s.keys.find? g with
  | some k =>
    rw [fetch_slot_of_hit hk, Slot.route, hk]
    refine ⟨?_, fun _ _ => .nil⟩
    rintro f ⟨⟩
  | none =>
    have hcourse := course_run B (GroupKey.generate g cv) s.backend
    rw [fetch_slot_of_miss hk rfl, Slot.route, hk]
    simp only [requests_append, requests_map_event, List.nil_append]
    generalize (GroupKey.generate g cv).run B s.backend = made at hcourse ⊢
    cases hr : made.result with
    | error f =>
      rw [hr] at hcourse
      refine ⟨?_, ?_⟩
      · rintro f' ⟨⟩
        exact (GroupKey.keeps_generate g cv).error hcourse
      · rintro k ⟨⟩
    | ok k =>
      rw [hr] at hcourse
      refine ⟨?_, fun _ _ => (GroupKey.keeps_generate g cv).pass hcourse id⟩
      rintro f ⟨⟩

lemma Session.goes_perform_sigGen (B : Backend V σ) (s : Session (Slot V) σ) (g : UInt32)
    (cv : V.Curve) (d : V.Digest) (m : Octets) :
    Goes (s.keys.route g ++
        [.any .sign, .any .components, .any .octetsOfInteger, .any .octetsOfInteger])
      (requests ((Task.sigGen cv d g m).perform (.slot V) B s).trace)
      (((Task.sigGen cv d g m).perform (.slot V) B s).result.map fun _ => ()) := by
  obtain ⟨hcut, hpass⟩ := s.goes_fetch_slot B g cv
  rw [Task.perform]
  cases hf : (s.fetch (.slot V) B g cv).result with
  | error f =>
    rw [Outcome.andThen_of_error hf]
    exact .stopped ((hcut f hf).append _)
  | ok k =>
    have hsigned := course_run B (makeSignature k.key d m)
      (s.fetch (.slot V) B g cv).state.backend
    rw [Outcome.andThen_of_ok hf, Outcome.after, requests_append]
    exact (hpass k hf).goes_append ((keeps_makeSignature k.key d m).ends.goes _ _ hsigned)

/-! ## Runs -/

namespace TestCase

variable {c : TestCase} {task : Task V} {q : List (Entry V)}

lemma Resolved.goes_perform (h : c.Resolved task q) (B : Backend V σ)
    (s : Session (Slot V) σ) :
    Goes (c.taskRoute s.keys) (requests (task.perform (.slot V) B s).trace)
      ((task.perform (.slot V) B s).result.map fun _ => ()) := by
  unfold taskRoute
  cases h with
  | keyGen hm cv =>
    rw [hm]
    exact (keeps_makeKey cv).ends.goes _ _ (course_run B _ s.backend)
  | keyVer hm cv =>
    rw [hm]
    exact (ends_checkKey cv c.qx c.qy).goes _ _ (course_run B _ s.backend)
  | sigGen hm hh cv d =>
    rw [hm]
    exact s.goes_perform_sigGen B c.group cv d c.message
  | sigVer hm hh cv d =>
    rw [hm]
    exact (ends_checkSignature cv d c.message c.qx c.qy c.r c.s).goes _ _
      (course_run B _ s.backend)

/-- **The first failure decides, and nothing is asked for after it.**  On every backend the
requests of a run go along the route of the case, and the run comes to what they come to.  So
the methods that are called are those of the mode, in their order, as far as it is gone. -/
theorem goes_run (B : Backend V σ) (c : TestCase) (s : Session (Slot V) σ) :
    Goes (c.route s.keys) (requests (c.run (.slot V) B s).trace)
        (c.run (.slot V) B s).result ∧
      methods (c.run (.slot V) B s).trace <+:
        c.mode.sequence (s.keys.find? c.group).isSome := by
  have hgoes : Goes (c.route s.keys) (requests (c.run (.slot V) B s).trace)
      (c.run (.slot V) B s).result := by
    have hcourse := course_run B c.task s.backend
    cases hr : (s.run B c.task).result with
    | error f =>
      rw [requests_run_of_unknown hr, run_of_unknown hr]
      have hfault : ((c.task : Program V (Task V)).run B s.backend).result = .error f := hr
      rw [hfault] at hcourse
      exact .stopped (((keeps_task c).error hcourse).append _)
    | ok task =>
      have htask : ((c.task : Program V (Task V)).run B s.backend).result = .ok task := hr
      rw [htask] at hcourse
      have hperform := (resolved_of_result hr).goes_perform B (s.run B c.task).state
      have hboth := ((keeps_task c).pass hcourse id).goes_append hperform
      rw [requests_run hr]
      cases hd : (task.perform (.slot V) B (s.run B c.task).state).result with
      | error f =>
        rw [hd] at hboth
        rw [run_of_fault hr hd]
        exact hboth
      | ok o =>
        rw [hd] at hboth
        rw [run_of_output hr hd]
        exact hboth
  refine ⟨hgoes, ?_⟩
  rw [← methods_requests, ← methods_route]
  exact hgoes.isPrefix_methods

-- three fields are empty, and the one that comes first on the route decides after another is read
example :
    let c : TestCase :=
      { mode := .sigVer, group := 0, number := 1, curve := .p256, hash := some .sha256,
        r := [1] }
    let report := c.run (.slot _) (.fixedWidth .standard) (.fresh { numbers := id })
    methods report.trace = [.curve, .digest, .integerOfOctets] ∧
      report.result = .error (.invalidEncoding "empty scalar") :=
  ⟨rfl, rfl⟩

end TestCase

end EcdsaVectors
