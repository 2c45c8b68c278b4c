/-
What fetching a key does to the slot.

If the slot holds a key of the group, it is the key that is fetched and all stays as it is
(`Session.fetch_slot_of_hit`).  Otherwise a key is made, and the slot holds this key or, if
none could be made, nothing (`Session.fetch_slot_of_miss`).  So the slot is left as it is, or
emptied, or filled with a new key of the group (`Session.keys_fetch_cases`).
-/
import Mathlib.Data.Option.Basic
import Mathlib.Tactic.Lemma
import EcdsaVectors.Proofs.Codec.Course
namespace EcdsaVectors

open Program

variable {V : Values} {σ : Type}

lemma Slot.find?_eq_some {s : Slot V} {group : UInt32} {k : GroupKey V} :
    s.find? group = some k ↔ s = some k ∧ k.group = group := by
  cases s with
  | none => simp [Slot.find?]
  | some k' =>
    rw [Slot.find?, Option.ite_none_right_eq_some, Option.some.injEq]
    constructor
    · rintro ⟨hg, rfl⟩
      exact ⟨rfl, hg⟩
    · rintro ⟨rfl, hg⟩
      exact ⟨hg, rfl⟩

@[simp] lemma Slot.makeRoom_fst (s : Slot V) (group : UInt32) : (s.makeRoom group).1 = none := by
  cases s <;> rfl

lemma GroupKey.group_of_generate {B : Backend V σ} {g : UInt32} {cv : V.Curve} {b : σ}
    {k : GroupKey V} (h : ((generate g cv).run B b).result = .ok k) : k.group = g := by
  have hcourse := course_run B (generate g cv) b
  rw [h] at hcourse
  exact (course_generate_ok hcourse).1

namespace Session

variable {B : Backend V σ} {group : UInt32} {cv : V.Curve} {s : Session (Slot V) σ}

lemma fetch_slot_of_hit {k : GroupKey V} (h : s.keys.find? group = some k) :
    s.fetch (.slot V) B group cv = ⟨.ok ⟨true, k⟩, s, [.event (.groupKeyReused group)]⟩ := by
  have hfind : (KeyStore.slot V).find? s.keys group = some k := h
  rw [fetch, hfind]

/-- Where there is none the slot is emptied first, and then holds the key that is made. -/
lemma fetch_slot_of_miss (h : s.keys.find? group = none) {made : Outcome V σ (GroupKey V)}
    (hmade : (GroupKey.generate group cv).run B s.backend = made) :
    s.fetch (.slot V) B group cv =
      ⟨made.result.map (⟨false, ·⟩), ⟨made.result.toOption, made.state⟩,
        (s.keys.makeRoom group).2.map .event ++ made.trace⟩ := by
  have hfind : (KeyStore.slot V).find? s.keys group = none := h
  have hroom : ((KeyStore.slot V).makeRoom s.keys group).1 = none := Slot.makeRoom_fst _ _
  rw [fetch, hfind]
  simp only [hroom, Session.run, hmade]
  obtain ⟨result, state, trace⟩ := made
  cases result with
  | error f =>
    -- the slot has been emptied, and stays so
    rfl
  | ok k =>
    simp only [Outcome.mapState_mk, Outcome.andThen_ok, Outcome.after_mk, List.append_nil]
    rfl

lemma keys_fetch_cases (B : Backend V σ) (s : Session (Slot V) σ) (group : UInt32)
    (cv : V.Curve) :
    (s.fetch (.slot V) B group cv).state.keys = s.keys ∨
      (s.fetch (.slot V) B group cv).state.keys = none ∨
      ∃ k, (s.fetch (.slot V) B group cv).state.keys = some k ∧ k.group = group ∧
        s.keys.find? group = none ∧
        ∃ b, ((GroupKey.generate group cv).run B b).result = .ok k := by
  cases hk : s.keys.find? group with
  | some k => exact .inl (by rw [fetch_slot_of_hit hk])
  | none =>
    obtain ⟨made, hmade⟩ : ∃ made, (GroupKey.generate group cv).run B s.backend = made :=
      ⟨_, rfl⟩
    rw [fetch_slot_of_miss hk hmade]
    cases hr : made.result with
    | error f => exact .inr (.inl rfl)
    | ok k =>
      -- a key is made, and it is of the group
      rw [← hmade] at hr
      exact .inr (.inr ⟨k, rfl, GroupKey.group_of_generate hr, rfl, s.backend, hr⟩)

/-- A key that is fetched is one of the group, and is in the slot afterwards. -/
lemma keys_fetch_slot {f : Fetched V} (h : (s.fetch (.slot V) B group cv).result = .ok f) :
    (s.fetch (.slot V) B group cv).state.keys = some f.key ∧ f.key.group = group := by
  cases hk : s.keys.find? group with
  | some k =>
    rw [fetch_slot_of_hit hk] at h ⊢
    obtain rfl := Except.ok.inj h
    exact Slot.find?_eq_some.1 hk
  | none =>
    obtain ⟨made, hmade⟩ : ∃ made, (GroupKey.generate group cv).run B s.backend = made :=
      ⟨_, rfl⟩
    rw [fetch_slot_of_miss hk hmade] at h ⊢
    cases hr : made.result with
    | error e =>
      rw [hr] at h
      cases h
    | ok k =>
      rw [hr] at h
      obtain rfl := Except.ok.inj h
      exact ⟨rfl, GroupKey.group_of_generate (hmade ▸ hr)⟩

/-- The making of a signature leaves the slot as fetching the key has left it. -/
lemma keys_perform_sigGen {h : V.Digest} {m : Octets} :
    ((Task.sigGen cv h group m).perform (.slot V) B s).state.keys =
      (s.fetch (.slot V) B group cv).state.keys := by
  rw [Task.perform]
  cases hf : (s.fetch (.slot V) B group cv).result with
  | error e => rw [Outcome.andThen_of_error hf]
  | ok f =>
    rw [Outcome.andThen_of_ok hf]
    rfl

end Session

end EcdsaVectors
