/-
A slot forgets nothing that is asked for again.

The slot keeps the key of the last group and the table keeps all keys.  On a stream that is
`Grouped`, a key that the slot has dropped is the key of a group that does not come back, so
nobody can tell the slot from the table (`observed_runAll_slot`).

The two stores are compared while the cases are run, and `Agrees past` is what is known of
them when keys have been asked for the groups `past`, the last one first: they hold the same
key for the last group, and none of them holds a key for a group that has not been met.
-/
import Mathlib.Data.List.Basic
import EcdsaVectors.GroupKey.Table
import EcdsaVectors.Scenario
import EcdsaVectors.Proofs.GroupKey.Fetch
import EcdsaVectors.Proofs.Run
import EcdsaVectors.Proofs.Stream.Cases
namespace EcdsaVectors

variable {V : Values} {κ σ : Type}

/-! ## Grouped lists -/

/-- A list of groups in which no group comes back after another one. -/
def Grouped (l : List UInt32) : Prop :=
  ∀ g h, [g, h, g].Sublist l → h = g

-- only the groups of the list are tried, and not all that there can be
instance (l : List UInt32) : Decidable (Grouped l) :=
  decidable_of_iff (l.all fun g => l.all fun h => decide ([g, h, g].Sublist l → h = g)) <| by
    simp only [List.all_eq_true, decide_eq_true_eq]
    constructor
    · intro hl g h hs
      exact hl g (hs.subset (by simp)) h (hs.subset (by simp)) hs
    · intro hl g _ h _ hs
      exact hl g h hs

/-- In a grouped list the next group is the last one or a new one. -/
lemma Grouped.head?_eq_or_not_mem {past rest : List UInt32} {g : UInt32}
    (h : Grouped (past.reverse ++ g :: rest)) : past.head? = some g ∨ g ∉ past := by
  cases past with
  | nil => exact Or.inr (by simp)
  | cons k past =>
    by_cases hg : g ∈ past
    · left
      have hsub : [g, k, g].Sublist ((k :: past).reverse ++ g :: rest) := by
        have h₁ : [g].Sublist past.reverse := by simpa using hg
        have h₂ : [g].Sublist (g :: rest) := by simp
        simpa using (h₁.append (List.Sublist.refl [k])).append h₂
      rw [List.head?_cons, h g k hsub]
    · by_cases hk : g = k
      · exact Or.inl (by rw [hk, List.head?_cons])
      · exact Or.inr (by simp [hk, hg])

/-! ## What the two stores have in common -/

/-- A slot and a table after keys have been asked for the groups `past`, the last one
first. -/
structure Agrees (past : List UInt32) (s : Session (Slot V) σ) (t : Session (Table V) σ) :
    Prop where
  backend : s.backend = t.backend
  /-- The slot holds no key but one of the last group. -/
  last : ∀ k ∈ s.keys, past.head? = some k.group
  /-- The table holds no key of a group that has not been met. -/
  known : ∀ k ∈ t.keys, k.group ∈ past
  /-- Both hold the same key for the last group, or none. -/
  same : ∀ g, past.head? = some g →
    (KeyStore.slot V).find? s.keys g = (KeyStore.table V).find? t.keys g

namespace Agrees

variable {past : List UInt32} {s s' : Session (Slot V) σ} {t t' : Session (Table V) σ}
  {B : Backend V σ} {g : UInt32}

lemma fresh (b : σ) : Agrees [] (Session.fresh (V := V) b) ⟨[], b⟩ :=
  ⟨rfl, by simp [Session.fresh], by simp, by simp⟩

lemma of_keys (h : Agrees past s t)
    (hs : s'.keys = s.keys ∧ t'.keys = t.keys ∧ s'.backend = t'.backend) :
    Agrees past s' t' := by
  obtain ⟨hk, hk', hb⟩ := hs
  exact ⟨hb, hk ▸ h.last, hk' ▸ h.known, hk ▸ hk' ▸ h.same⟩

/-- Agreeing stores find the same key for every group that can come next. -/
lemma find?_eq (h : Agrees past s t) (hg : past.head? = some g ∨ g ∉ past) :
    (KeyStore.slot V).find? s.keys g = (KeyStore.table V).find? t.keys g := by
  rcases hg with hg | hg
  · exact h.same g hg
  · -- a group that has not been met has no key in either of them
    have ht : (KeyStore.table V).find? t.keys g = none := by
      refine List.find?_eq_none.2 fun k hk hkg => ?_
      have hgroup : k.group = g := of_decide_eq_true hkg
      exact hg (hgroup ▸ h.known k hk)
    rw [ht]
    cases hs : s.keys with
    | none => rfl
    | some k =>
      have hlast := h.last k (by simp [hs])
      have hmem : k.group ∈ past := List.mem_of_mem_head? hlast
      have hne : k.group ≠ g := fun hkg => hg (hkg ▸ hmem)
      exact if_neg hne

lemma hit (h : Agrees past s t) (hg : past.head? = some g ∨ g ∉ past) {k : GroupKey V}
    (hk : (KeyStore.slot V).find? s.keys g = some k) : Agrees (g :: past) s t := by
  refine ⟨h.backend, ?_, fun k' hk' => List.mem_cons_of_mem _ (h.known k' hk'), ?_⟩
  · intro k' hk'
    rw [Option.mem_def.1 hk'] at hk
    obtain ⟨hgroup, -⟩ := Option.ite_none_right_eq_some.1 hk
    rw [List.head?_cons, hgroup]
  · rintro g' hg'
    obtain rfl : g = g' := Option.some.inj hg'
    exact h.find?_eq hg

/-- Where no key can be made the slot is empty, and the table has no key of the group. -/
lemma evict (h : Agrees past s t) (ht : (KeyStore.table V).find? t.keys g = none)
    (hs : s'.keys = none ∧ t'.keys = t.keys ∧ s'.backend = t'.backend) :
    Agrees (g :: past) s' t' := by
  obtain ⟨hk, hk', hb⟩ := hs
  refine ⟨hb, by simp [hk], fun k hk₀ => List.mem_cons_of_mem _ (h.known k (hk' ▸ hk₀)), ?_⟩
  rintro g' hg'
  obtain rfl : g = g' := Option.some.inj hg'
  rw [hk, hk', ht]
  rfl

lemma insert (h : Agrees past s t) (k : GroupKey V)
    (hs : s'.keys = some k ∧ t'.keys = k :: t.keys ∧ s'.backend = t'.backend) :
    Agrees (k.group :: past) s' t' := by
  obtain ⟨hk, hk', hb⟩ := hs
  refine ⟨hb, ?_, ?_, ?_⟩
  · rintro k₀ hk₀
    rw [hk] at hk₀
    obtain rfl : k = k₀ := Option.some.inj hk₀
    rfl
  · intro k₀ hk₀
    rw [hk'] at hk₀
    rcases List.mem_cons.1 hk₀ with rfl | hk₀
    · exact List.mem_cons_self
    · exact List.mem_cons_of_mem _ (h.known k₀ hk₀)
  · rintro g' hg'
    obtain rfl : k.group = g' := Option.some.inj hg'
    rw [hk, hk']
    simp [KeyStore.slot, KeyStore.table, Slot.find?]

end Agrees

/-! ## Asking for a key -/

lemma Agrees.fetch_matches {past : List UInt32} {s : Session (Slot V) σ}
    {t : Session (Table V) σ} (h : Agrees past s t) (B : Backend V σ) {g : UInt32}
    (hg : past.head? = some g ∨ g ∉ past) (c : V.Curve) :
    (s.fetch (.slot V) B g c).Matches (Agrees (g :: past)) (t.fetch (.table V) B g c) := by
  have hfind := h.find?_eq hg
  unfold Session.fetch
  cases hk : (KeyStore.table V).find? t.keys g with
  | some k =>
    rw [hk] at hfind
    rw [hfind]
    exact ⟨rfl, h.hit hg hfind, rfl⟩
  | none =>
    rw [hk] at hfind
    rw [hfind]
    -- the slot is emptied, and the table is left as it is
    refine Outcome.Matches.after (Outcome.Matches.andThen
      (Session.run_matches (GroupKey.generate g c) h.backend) ?_ ?_) (by simp)
    · rintro k s' t' hmade ⟨-, ht, hb⟩
      obtain rfl : k.group = g := GroupKey.group_of_generate hmade
      exact ⟨rfl, h.insert k ⟨rfl, congrArg (k :: ·) ht, hb⟩, rfl⟩
    · rintro s' t' ⟨hs, ht, hb⟩
      exact h.evict hk ⟨hs.trans (Slot.makeRoom_fst _ _), ht, hb⟩

/-! ## Tasks, cases and streams -/

lemma Agrees.perform_matches {past : List UInt32} {s : Session (Slot V) σ}
    {t : Session (Table V) σ} (h : Agrees past s t) (B : Backend V σ) (task : Task V)
    (hg : ∀ g, task.group? = some g → past.head? = some g ∨ g ∉ past) :
    (task.perform (.slot V) B s).Matches (Agrees (task.group?.toList ++ past))
      (task.perform (.table V) B t) := by
  cases task with
  | keyGen c => exact (Session.run_matches _ h.backend).mono fun _ _ => h.of_keys
  | keyVer c qx qy => exact (Session.run_matches _ h.backend).mono fun _ _ => h.of_keys
  | sigVer c d m qx qy r s => exact (Session.run_matches _ h.backend).mono fun _ _ => h.of_keys
  | sigGen c d g m =>
    refine (h.fetch_matches B (hg g rfl) c).andThen (fun k s' t' _ h' => ?_) fun _ _ h' => h'
    exact (Session.run_matches _ h'.backend).mono fun _ _ => h'.of_keys

lemma Agrees.run {past : List UInt32} {s : Session (Slot V) σ} {t : Session (Table V) σ}
    (h : Agrees past s t) (B : Backend V σ) (c : TestCase)
    (hg : ∀ g, c.requestedGroup? B s = some g → past.head? = some g ∨ g ∉ past) :
    (c.run (.slot V) B s).observed = (c.run (.table V) B t).observed ∧
      Agrees ((c.requestedGroup? B s).toList ++ past)
        (c.run (.slot V) B s).session (c.run (.table V) B t).session := by
  obtain ⟨hresult, hstate, hreq⟩ := Session.run_matches c.task h.backend
  have hfound := h.of_keys hstate
  unfold TestCase.requestedGroup? at hg ⊢
  cases hr : (s.run B c.task).result with
  | error f =>
    rw [TestCase.run_of_unknown hr, TestCase.run_of_unknown (hresult.symm.trans hr)]
    refine ⟨?_, hfound⟩
    simp [TestCase.failed, Report.observed, TestCase.opening, hreq, hfound.backend]
  | ok task =>
    rw [hr] at hg
    have hr' := hresult.symm.trans hr
    -- the two tasks are the same, and both are performed from where the names were found
    obtain ⟨hresult', hstate', hreq'⟩ := hfound.perform_matches B task hg
    cases hd : (task.perform (.slot V) B (s.run B c.task).state).result with
    | error f =>
      rw [TestCase.run_of_fault hr hd, TestCase.run_of_fault hr' (hresult'.symm.trans hd)]
      refine ⟨?_, hstate'⟩
      simp [TestCase.failed, Report.observed, TestCase.opening, hreq, hreq', hstate'.backend]
    | ok output =>
      rw [TestCase.run_of_output hr hd, TestCase.run_of_output hr' (hresult'.symm.trans hd)]
      refine ⟨?_, hstate'⟩
      simp [Report.observed, TestCase.opening, hreq, hreq', hstate'.backend]

/-- The two stores are not told apart by a stream that is grouped, together with what has
been asked before. -/
lemma Agrees.runAll {past : List UInt32} {s : Session (Slot V) σ} {t : Session (Table V) σ}
    (h : Agrees past s t) (B : Backend V σ) (cs : List TestCase)
    (hg : Grouped (past.reverse ++ s.requestedGroups (.slot V) B cs)) :
    (s.runAll (.slot V) B cs).map Report.observed =
      (t.runAll (.table V) B cs).map Report.observed := by
  induction cs generalizing past s t with
  | nil => rfl
  | cons c cs ih =>
    rw [Session.requestedGroups] at hg
    have hnext : ∀ g, c.requestedGroup? B s = some g → past.head? = some g ∨ g ∉ past := by
      intro g hc
      rw [hc] at hg
      exact hg.head?_eq_or_not_mem
    obtain ⟨hobserved, h'⟩ := h.run B c hnext
    have hrest := ih h' (by
      cases hc : c.requestedGroup? B s <;> simpa [hc] using hg)
    rw [Session.runAll, Session.runAll, List.map_cons, List.map_cons, hobserved, hrest]

/-- **The slot is as good as the table.**  On a stream of cases in which no group comes back
after another one, run from the beginning on any backend, every case comes to the same
result, is left the same and asks the same of the backend, whether the key of the last group
is kept or all keys are. -/
theorem observed_runAll_slot (B : Backend V σ) (b : σ) (cs : List TestCase)
    (h : Grouped ((Session.fresh b).requestedGroups (.slot V) B cs)) :
    ((Session.fresh b).runAll (.slot V) B cs).map Report.observed =
      (Session.runAll (.table V) B ⟨[], b⟩ cs).map Report.observed :=
  (Agrees.fresh b).runAll B cs h

/-- Cases of two groups: the first fails, between the groups come a check and a case that
names no hash function, and no key is left for the second group. -/
def mixedCases : List TestCase :=
  let blank : TestCase := { mode := .sigGen, group := 0, number := 1, curve := .p256 }
  let other : TestCase := { blank with group := 7, curve := .p384 }
  [ blank.withHash .sha256, { blank with mode := .keyVer, qx := [0], qy := [5] },
    { blank with group := 9 }, blank.withHash .sha1, other.withHash .sha384,
    other.withHash .sha512 ]

/-- One key, and the first signature goes wrong. -/
def mixedScript : Script := { keys := [[3]], plans := [⟨.sign, 1, .fault .signing⟩] }

/-- Nobody can tell the slot from the table on `mixedCases`. -/
theorem observed_runAll_mixedCases :
    Grouped ((Session.fresh (mixedScript, { numbers := id })).requestedGroups (.slot _)
      Stage.bigInteger.scripted mixedCases) ∧
    ((Session.fresh (mixedScript, { numbers := id })).runAll (.slot _)
      Stage.bigInteger.scripted mixedCases).map Report.observed =
    (Session.runAll (.table _) Stage.bigInteger.scripted
      ⟨[], (mixedScript, { numbers := id })⟩ mixedCases).map Report.observed :=
  ⟨by decide +kernel, observed_runAll_slot _ _ _ (by decide +kernel)⟩

end EcdsaVectors
