/-
What a run changes in its case.

A run writes the fields that belong to the mode of its case, all of them at once and from one
source.  A run that fails writes none, although a check that has begun leaves the verdict that
it began with.

* `TestCase.Changed`: the ways in which a case can come out of a run, each with the requests
  that the new values are answers to;
* `TestCase.changed_run`: every run is one of them, on every backend.
-/
import EcdsaVectors.Proofs.GroupKey.Making
namespace EcdsaVectors

open Program

variable {V : Values} {σ : Type}

/-! ## The key of a signature -/

/-- The key `k` is had for the group `g` by the requests of the list: it is in the slot, and
there are none, or it is made by them on the curve `cv` for a slot that has no key of the
group. -/
inductive GroupKey.Had (k : GroupKey V) (g : UInt32) (cv : V.Curve) (before : Slot V) :
    List (Entry V) → Prop
  | kept (hk : before = some k) : Had k g cv before []
  | made (hmiss : before.find? g = none) {w : List (Entry V)}
      (hw : (generate g cv).Course w (.ok k)) : Had k g cv before w

namespace Session

variable {B : Backend V σ} {s : Session (Slot V) σ} {g : UInt32} {cv : V.Curve}

lemma had_of_fetch {f : Fetched V} (h : (s.fetch (.slot V) B g cv).result = .ok f) :
    f.key.Had g cv s.keys (requests (s.fetch (.slot V) B g cv).trace) := by
  obtain ⟨hslot, -⟩ := keys_fetch_slot h
  rcases s.fetch_slot_cases B g cv with ⟨k, -, hbefore, hafter, hw⟩ | ⟨hmiss, r, hafter, hw⟩
  · obtain rfl : k = f.key := Option.some.inj (hafter.symm.trans hslot)
    rw [hw]
    exact .kept hbefore
  · -- the slot holds what has been made, and this is the key that is fetched
    rw [hslot] at hafter
    cases r with
    | error e => cases hafter
    | ok k =>
      obtain rfl : f.key = k := Option.some.inj hafter
      exact .made hmiss hw

/-- A signature is made with a key that is had for its group, and this key is in the slot
afterwards. -/
lemma perform_sigGen_ok {h : V.Digest} {m : Octets} {o : Output}
    (ho : ((Task.sigGen cv h g m).perform (.slot V) B s).result = .ok o) :
    ∃ k w u, k.group = g ∧ k.Had g cv s.keys w ∧ (makeSignature k h m).Course u (.ok o) ∧
      requests ((Task.sigGen cv h g m).perform (.slot V) B s).trace = w ++ u ∧
      ((Task.sigGen cv h g m).perform (.slot V) B s).state.keys = some k := by
  have hstate : ((Task.sigGen cv h g m).perform (.slot V) B s).state.keys =
      (s.fetch (.slot V) B g cv).state.keys := keys_perform_sigGen
  rw [Task.perform] at ho hstate ⊢
  obtain ⟨f, hf, hsigned, -⟩ := Outcome.exists_of_andThen ho
  obtain ⟨hslot, hgroup⟩ := keys_fetch_slot hf
  have hcourse := course_run B (makeSignature f.key h m) (s.fetch (.slot V) B g cv).state.backend
  rw [Outcome.andThen_of_ok hf] at hstate ⊢
  refine ⟨f.key, _, _, hgroup, had_of_fetch hf, ?_, requests_append _ _, hstate.trans hslot⟩
  exact hsigned ▸ hcourse

end Session

/-! ## The ways of a case -/

namespace TestCase

variable {c : TestCase}

/-- The ways in which a case can come out of a run: the result of the run, its requests with
their answers, and the case after it, for the slots before and after the run. -/
inductive Changed (c : TestCase) (before after : Slot V) :
    Except Fault Unit → List (Entry V) → TestCase → Prop
  /-- The run fails, and no field is changed. -/
  | unchanged (f : Fault) (t : List (Entry V)) : Changed c before after (.error f) t c
  /-- A check fails after it has begun, and the verdict is what it began with. -/
  | reset (hm : c.mode = .keyVer ∨ c.mode = .sigVer) (f : Fault) (t : List (Entry V)) :
    Changed c before after (.error f) t { c with verdict := .fail }
  /-- A check ends in a verdict. -/
  | verdict (hm : c.mode = .keyVer ∨ c.mode = .sigVer) (v : Verdict) (t : List (Entry V)) :
    Changed c before after (.ok ()) t { c with verdict := v }
  /-- A key pair is made, and its scalar and the point of its public key are written. -/
  | key (hm : c.mode = .keyGen) {cv : V.Curve} {pair : V.KeyPair} {key : V.PublicKey}
      {i x y : V.Integer} {d qx qy : Octets} :
    Changed c before after (.ok ())
      [.asked (.curve c.curve) (some cv), .asked (.generateKeyPair cv) (.ok pair),
        .asked (.privateScalar pair) (.ok i), .asked (.publicKey pair) (.ok key),
        .asked (.coordinates key) (.ok (x, y)), .asked (.octetsOfInteger x) qx,
        .asked (.octetsOfInteger y) qy, .asked (.octetsOfInteger i) d]
      { c with d := d, qx := qx, qy := qy }
  /-- A signature is made with the pair of the key that is in the slot afterwards, and its
  components are written with the point of this key. -/
  | signature (hm : c.mode = .sigGen) {name : HashName} (hh : c.hash = some name) {cv : V.Curve}
      {h : V.Digest} {k : GroupKey V} {w : List (Entry V)} (hgroup : k.group = c.group)
      (hk : k.Had c.group cv before w) (hafter : after = some k) {S : V.Signature}
      {x y : V.Integer} {r s : Octets} :
    Changed c before after (.ok ())
      ([.asked (.curve c.curve) (some cv), .asked (.digest name) (some h)] ++ (w ++
        [.asked (.sign k.pair h c.message) (.ok S), .asked (.components S) (.ok (x, y)),
          .asked (.octetsOfInteger x) r, .asked (.octetsOfInteger y) s]))
      { c with r := r, s := s, qx := k.qx, qy := k.qy }

namespace Resolved

variable {B : Backend V σ} {s : Session (Slot V) σ} {task : Task V} {q : List (Entry V)}

lemma changed_of_error (h : c.Resolved task q) (before after : Slot V) (f : Fault)
    (t : List (Entry V)) : c.Changed before after (.error f) t (c.begin task) := by
  cases h with
  | keyGen hm cv => exact .unchanged f t
  | sigGen hm hh cv h => exact .unchanged f t
  | keyVer hm cv => exact .reset (.inl hm) f t
  | sigVer hm hh cv h => exact .reset (.inr hm) f t

/-- A case whose task has an output gets it from the requests of the task. -/
lemma changed_of_output (h : c.Resolved task q) {o : Output}
    (ho : (task.perform (.slot V) B s).result = .ok o) :
    c.Changed s.keys (task.perform (.slot V) B s).state.keys (.ok ())
      (q ++ requests (task.perform (.slot V) B s).trace) ((c.begin task).record o) := by
  cases h with
  | keyGen hm cv =>
    have hcourse := course_run B (makeKey cv) s.backend
    obtain ⟨pair, i, key, x, y, d, qx, qy, rfl, ht⟩ := course_makeKey_ok (ho ▸ hcourse)
    change c.Changed _ _ _ ([.asked (.curve c.curve) (some cv)] ++
      requests ((makeKey cv).run B s.backend).trace) _
    rw [ht]
    exact .key hm
  | keyVer hm cv =>
    have hcourse := course_run B (checkKey cv c.qx c.qy) s.backend
    obtain ⟨k?, -, rfl⟩ := course_checkKey_ok (ho ▸ hcourse)
    exact .verdict (.inl hm) _ _
  | sigVer hm hh cv h =>
    have hcourse := course_run B (checkSignature cv h c.message c.qx c.qy c.r c.s) s.backend
    obtain ⟨S, u, v, -, ⟨-, -, rfl⟩ | ⟨key, valid, -, -, rfl⟩⟩ :=
      course_checkSignature_ok (ho ▸ hcourse)
    · exact .verdict (.inr hm) _ _
    · exact .verdict (.inr hm) _ _
  | sigGen hm hh cv h =>
    obtain ⟨k, w, u, hgroup, hk, hu, ht, hafter⟩ := Session.perform_sigGen_ok ho
    obtain ⟨S, x, y, r, s', rfl, rfl⟩ := course_makeSignature_ok hu
    rw [ht]
    exact .signature hm hh hgroup hk hafter

end Resolved

/-- **A run changes the fields of its mode, all at once and from one source, or fails.**  This
holds on every backend, whichever of the requests fails, and for every key in the slot. -/
theorem changed_run (B : Backend V σ) (c : TestCase) (s : Session (Slot V) σ) :
    c.Changed s.keys (c.run (.slot V) B s).session.keys (c.run (.slot V) B s).result
      (requests (c.run (.slot V) B s).trace) (c.run (.slot V) B s).case := by
  cases hr : (s.run B c.task).result with
  | error f =>
    rw [run_of_unknown hr]
    exact .unchanged f _
  | ok task =>
    have hresolved := resolved_of_result hr
    cases hd : (task.perform (.slot V) B (s.run B c.task).state).result with
    | error f =>
      rw [run_of_fault hr hd]
      exact hresolved.changed_of_error _ _ f _
    | ok o =>
      rw [requests_run hr, run_of_output hr hd]
      exact hresolved.changed_of_output (s := (s.run B c.task).state) hd

end TestCase

end EcdsaVectors
