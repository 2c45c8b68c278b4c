/-
The requests by which a key is made.

A key of a group is made by a request for a key pair, one for its public key, and those by
which the point of this is written.  All three can fail (`Breaks`), and none of them is made
in a case for which a key is at hand, so that it can be told from the trace of a step alone
whether a key was to be made, and whether this has failed.  What is asked before and after is
`Quiet` about it.
-/
import EcdsaVectors.Proofs.GroupKey.Fetch
import EcdsaVectors.Proofs.Run.Course
namespace EcdsaVectors

open Program

variable {α : Type} {V : Values} {σ : Type}

/-- A key pair is asked for. -/
def AsksForPair (t : List (Entry V)) : Prop := ∃ cv a, .asked (.generateKeyPair cv) a ∈ t

/-- One of the requests by which a key is made fails: for the key pair, for its public key or
for the coordinates of this. -/
def Breaks (t : List (Entry V)) : Prop :=
  (∃ cv f, .asked (.generateKeyPair cv) (.error f) ∈ t) ∨
    (∃ pair f, .asked (.publicKey pair) (.error f) ∈ t) ∨
    ∃ key f, .asked (.coordinates key) (.error f) ∈ t

/-- The pair of the key is the answer to the one request for a key pair in the trace, which is
for one on the curve `cv`, and the octets of the key are those of its public key, written
there and then. -/
structure GroupKey.MadeIn (k : GroupKey V) (cv : V.Curve) (t : List (Entry V)) : Prop where
  once : (methods t).count .generateKeyPair = 1
  made : ∃ key u, (Codec.writePoint key).Course u (.ok (k.qx, k.qy)) ∧
    .asked (.generateKeyPair cv) (.ok k.pair) :: .asked (.publicKey k.pair) (.ok key) :: u <:+:
      requests t

/-! ## Between other requests -/

/-- No request of the trace has a part in the making of a key. -/
def Quiet (t : List (Entry V)) : Prop :=
  ∀ x ∈ methods t, x ≠ .generateKeyPair ∧ x ≠ .publicKey ∧ x ≠ .coordinates

lemma Quiet.of_calls {t : List (Entry V)} {l : List Method} (ht : methods t <+: l)
    (hl : ∀ x ∈ l, x ≠ .generateKeyPair ∧ x ≠ .publicKey ∧ x ≠ .coordinates) : Quiet t :=
  fun x hx => hl x (ht.subset hx)

section Between

variable {t pre w post : List (Entry V)} (ht : requests t = pre ++ w ++ post)
  (hpre : Quiet pre) (hpost : Quiet post)

include ht hpre hpost

/-- The requests by which a key is made can be told apart. -/
lemma asked_mem_iff {x : Method} {q : Request V x} {a : x.Answer V}
    (hx : x = .generateKeyPair ∨ x = .publicKey ∨ x = .coordinates) :
    .asked q a ∈ t ↔ .asked q a ∈ w := by
  have hquiet : ∀ u, Quiet u → .asked q a ∉ u := by
    intro u hu hmem
    obtain ⟨h₁, h₂, h₃⟩ := hu x (mem_methods hmem)
    rcases hx with rfl | rfl | rfl
    · exact h₁ rfl
    · exact h₂ rfl
    · exact h₃ rfl
  rw [← mem_requests, ht]
  simp [hquiet pre hpre, hquiet post hpost]

lemma asksForPair_iff : AsksForPair t ↔ AsksForPair w := by
  simp only [AsksForPair, asked_mem_iff ht hpre hpost (.inl rfl)]

lemma breaks_iff : Breaks t ↔ Breaks w := by
  simp only [Breaks, asked_mem_iff ht hpre hpost (.inl rfl),
    asked_mem_iff ht hpre hpost (.inr (.inl rfl)), asked_mem_iff ht hpre hpost (.inr (.inr rfl))]

lemma count_generateKeyPair :
    (methods t).count .generateKeyPair = (methods w).count .generateKeyPair := by
  have hcount : ∀ u : List (Entry V), Quiet u → (methods u).count .generateKeyPair = 0 :=
    fun u hu => List.count_eq_zero.2 fun h => (hu _ h).1 rfl
  rw [← methods_requests, ht]
  simp [hcount pre hpre, hcount post hpost]

end Between

/-! ## The making of a key -/

lemma not_asksForPair_nil : ¬ AsksForPair ([] : List (Entry V)) := by
  simp [AsksForPair]

lemma not_breaks_nil : ¬ Breaks ([] : List (Entry V)) := by
  simp [Breaks]

namespace GroupKey

variable {g : UInt32} {cv : V.Curve} {w : List (Entry V)}

/-- A key pair is asked for first. -/
lemma asksForPair_of_generate {r : Except Fault (GroupKey V)}
    (h : (generate g cv).Course w r) : AsksForPair w := by
  cases r with
  | ok k =>
    obtain ⟨-, key, u, rfl, -⟩ := course_generate_ok h
    exact ⟨cv, _, List.mem_cons_self⟩
  | error f =>
    rcases course_generate_error h with ⟨u, rfl⟩ | ⟨pair, u, rfl⟩ | ⟨pair, key, u, rfl⟩
    all_goals exact ⟨cv, _, List.mem_cons_self⟩

/-- Where no key is made a request has failed. -/
lemma breaks_of_generate {f : Fault} (h : (generate g cv).Course w (.error f)) : Breaks w := by
  rcases course_generate_error h with ⟨u, rfl⟩ | ⟨pair, u, rfl⟩ | ⟨pair, key, u, rfl⟩
  · exact .inl ⟨cv, f, by simp⟩
  · exact .inr (.inl ⟨pair, f, by simp⟩)
  · exact .inr (.inr ⟨key, f, by simp⟩)

/-- Where a key is made all requests have been answered with values. -/
lemma not_breaks_of_generate {k : GroupKey V} (h : (generate g cv).Course w (.ok k)) :
    ¬ Breaks w := by
  obtain ⟨-, key, u, rfl, hu⟩ := course_generate_ok h
  obtain ⟨x, y, rfl⟩ := Codec.course_writePoint_ok hu
  rintro (⟨cv', f, h⟩ | ⟨pair, f, h⟩ | ⟨key', f, h⟩)
  · simp at h
  · simp at h
  · simp at h

/-- The key has been made in a trace in which nothing else is asked for that has a part in
the making of a key. -/
lemma madeIn_of_generate {t pre post : List (Entry V)} {k : GroupKey V}
    (ht : requests t = pre ++ w ++ post) (hpre : Quiet pre) (hpost : Quiet post)
    (h : (generate g cv).Course w (.ok k)) : k.MadeIn cv t := by
  refine ⟨?_, ?_⟩
  · rw [count_generateKeyPair ht hpre hpost, (follows_generate g cv w _ h).2 k rfl]
    rfl
  · obtain ⟨-, key, u, rfl, hu⟩ := course_generate_ok h
    exact ⟨key, u, hu, ht ▸ List.infix_append pre _ post⟩

end GroupKey

/-! ## Fetching a key -/

/-- What fetching a key does to the slot, and what it asks for: nothing if the slot holds a
key of the group, and otherwise what the making of one asks for. -/
lemma Session.fetch_slot_cases (B : Backend V σ) (s : Session (Slot V) σ) (g : UInt32)
    (cv : V.Curve) :
    (∃ k, k.group = g ∧ s.keys = some k ∧
        (s.fetch (.slot V) B g cv).state.keys = some k ∧
        requests (s.fetch (.slot V) B g cv).trace = []) ∨
      s.keys.find? g = none ∧ ∃ r : Except Fault (GroupKey V),
        (s.fetch (.slot V) B g cv).state.keys = r.toOption ∧
        (GroupKey.generate g cv).Course (requests (s.fetch (.slot V) B g cv).trace) r := by
  cases hk : s.keys.find? g with
  | some k =>
    obtain ⟨hkeys, hgroup⟩ := Slot.find?_eq_some.1 hk
    rw [fetch_slot_of_hit hk]
    exact .inl ⟨k, hgroup, hkeys, hkeys, rfl⟩
  | none =>
    have hcourse := course_run B (GroupKey.generate g cv) s.backend
    rw [fetch_slot_of_miss hk rfl]
    refine .inr ⟨rfl, _, rfl, ?_⟩
    rw [requests_append, requests_map_event]
    exact hcourse

/-- Fetching a key calls the methods by which one is made, if any. -/
lemma Session.methods_fetch_slot (B : Backend V σ) (s : Session (Slot V) σ) (g : UInt32)
    (cv : V.Curve) : methods (s.fetch (.slot V) B g cv).trace <+:
      [.generateKeyPair, .publicKey, .coordinates, .octetsOfInteger, .octetsOfInteger] := by
  rw [← methods_requests]
  rcases s.fetch_slot_cases B g cv with ⟨k, -, -, -, hw⟩ | ⟨-, r, -, hw⟩
  · rw [hw]
    exact List.nil_prefix
  · exact (GroupKey.follows_generate g cv _ r hw).1

/-- What is asked for a signature is asked after the key has been fetched. -/
lemma Session.requests_perform_sigGen (B : Backend V σ) (s : Session (Slot V) σ) (g : UInt32)
    (cv : V.Curve) (d : V.Digest) (m : Octets) :
    ∃ post, requests ((Task.sigGen cv d g m).perform (.slot V) B s).trace =
      requests (s.fetch (.slot V) B g cv).trace ++ post ∧
        methods post <+: [.sign, .components, .octetsOfInteger, .octetsOfInteger] := by
  rw [Task.perform]
  cases hf : (s.fetch (.slot V) B g cv).result with
  | error f =>
    rw [Outcome.andThen_of_error hf]
    exact ⟨[], by simp, List.nil_prefix⟩
  | ok fetched =>
    rw [Outcome.andThen_of_ok hf]
    have hsigned := course_run B (makeSignature fetched.key d m)
      (s.fetch (.slot V) B g cv).state.backend
    exact ⟨_, requests_append _ _, (follows_makeSignature _ _ _ _ _ hsigned).1⟩

end EcdsaVectors
