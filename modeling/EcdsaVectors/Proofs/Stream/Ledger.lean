/-
The ledger of a stream.

Each moment of a stream keeps to the account of key pairs (`Moment.Account`), and so the
purposes of the pairs stay apart over the whole stream: no pair that is made for a case comes
into the slot, and none comes into it twice.  As long as no attempt fails, the pairs that are
made for groups can be counted without a look at the slot, by the blocks of equal groups.

* `Evolves`: the moments of a list, with the slots before and after each of them;
* `KeptApart`: what is said of all pairs of a stream if no pair is given out twice;
* `InBlocks`: the blocks of attempts, each with one key pair and one point;
* `Session.ledger_history`: all this holds of every stream, on every backend.
-/
import Mathlib.Data.List.Nodup
import Mathlib.Data.List.SplitBy
import EcdsaVectors.Proofs.Stream.Account
namespace EcdsaVectors

open Program

variable {V : Values} {σ : Type}

/-! ## Attempts, as they can be computed -/

namespace Moment

variable {m : Moment V σ}

/-- The group for whose key the moment asks, if it is an attempt. -/
def attempted? (m : Moment V σ) : Option UInt32 :=
  match m.step, requests m.report.trace with
  | .run c, .asked (.curve C) (some _) :: .asked (.digest name) (some _) :: _ =>
    if c.mode = .sigGen ∧ C = c.curve ∧ c.hash = some name then some c.group else none
  | .fetch g C', .asked (.curve C) (some _) :: _ => if C = C' then some g else none
  | _, _ => none

lemma attempted?_eq_some {g : UInt32} :
    m.attempted? = some g ↔ ∃ cv, m.Attempts g cv := by
  unfold attempted? Attempts
  constructor
  · intro h
    split at h
    · next hstep ht =>
      obtain ⟨⟨hm, rfl, hh⟩, hg⟩ := Option.ite_none_right_eq_some.1 h
      rw [hstep, ht]
      exact ⟨_, hm, Option.some.inj hg, _, _, hh, List.prefix_append _ _⟩
    · next hstep ht =>
      obtain ⟨rfl, hg⟩ := Option.ite_none_right_eq_some.1 h
      rw [hstep, ht]
      exact ⟨_, Option.some.inj hg, List.prefix_append _ _⟩
    · cases h
  · rintro ⟨cv, h⟩
    cases hstep : m.step with
    | release =>
      rw [hstep] at h
      exact h.elim
    | run c =>
      rw [hstep] at h
      obtain ⟨hm, rfl, name, d, hh, rest, ht⟩ := h
      rw [← ht]
      simp [hm, hh]
    | fetch g' C =>
      rw [hstep] at h
      obtain ⟨rfl, rest, ht⟩ := h
      rw [← ht]
      simp

lemma isSome_attempted?_iff : m.attempted?.isSome ↔ m.IsAttempt := by
  simp only [Option.isSome_iff_exists, attempted?_eq_some, IsAttempt]

/-- The mark of an attempt is its group, and that of a release is none; other moments have no
mark. -/
def mark? (m : Moment V σ) : Option (Option UInt32) :=
  if m.step = .release then some none else m.attempted?.map some

lemma mark?_eq_some_none : m.mark? = some none ↔ m.step = .release := by
  unfold mark?
  split
  · next h => simp [h]
  · next h => simp [h]

lemma mark?_eq_some_some {g : UInt32} : m.mark? = some (some g) ↔ ∃ cv, m.Attempts g cv := by
  unfold mark?
  split
  · next h => simp [Attempts, h]
  · simp [attempted?_eq_some]

lemma isSome_mark?_of_attempted? (h : m.attempted?.isSome) : m.mark?.isSome := by
  obtain ⟨g, hg⟩ := Option.isSome_iff_exists.1 h
  rw [mark?_eq_some_some.2 (attempted?_eq_some.1 hg)]
  rfl

lemma mark?_eq_none : m.mark? = none ↔ m.step ≠ .release ∧ ¬ m.IsAttempt := by
  unfold mark?
  split
  · next h => simp [h]
  · next h => simp [h, ← isSome_attempted?_iff]

end Moment

lemma filter_attempted?_filter_mark? (l : List (Moment V σ)) :
    (l.filter (·.mark?.isSome)).filter (·.attempted?.isSome) =
      l.filter (·.attempted?.isSome) := by
  rw [List.filter_filter]
  refine List.filter_congr fun m _ => ?_
  rw [Bool.eq_iff_iff, Bool.and_eq_true, and_iff_left_iff_imp]
  exact Moment.isSome_mark?_of_attempted?

/-! ## The slot from moment to moment -/

/-- The moments of a list, from the slot `before` to the slot `after`: each does to the slot
what it can do, and keeps to the account. -/
inductive Evolves : Slot V → List (Moment V σ) → Slot V → Prop
  | nil (slot : Slot V) : Evolves slot [] slot
  | cons {before after : Slot V} {m : Moment V σ} {l : List (Moment V σ)}
      (heffect : m.Effect before) (haccount : m.Account before)
      (hl : Evolves m.report.session.keys l after) : Evolves before (m :: l) after

namespace Evolves

variable {before after : Slot V} {m : Moment V σ} {l l' : List (Moment V σ)}

lemma of_append (h : Evolves before (l ++ l') after) :
    ∃ slot, Evolves before l slot ∧ Evolves slot l' after := by
  induction l generalizing before with
  | nil => exact ⟨before, .nil before, h⟩
  | cons m l ih =>
    cases h with
    | cons heffect haccount hl =>
      obtain ⟨slot, h₁, h₂⟩ := ih hl
      exact ⟨slot, .cons heffect haccount h₁, h₂⟩

lemma append {slot : Slot V} (h : Evolves before l slot) (h' : Evolves slot l' after) :
    Evolves before (l ++ l') after := by
  induction h with
  | nil slot => exact h'
  | cons heffect haccount _ ih => exact .cons heffect haccount (ih h')

lemma slotAfter_eq (h : Evolves none l after) : slotAfter l = after := by
  rcases List.eq_nil_or_concat l with rfl | ⟨l, m, rfl⟩
  · cases h
    rfl
  · rw [List.concat_eq_append] at h ⊢
    obtain ⟨slot, -, hlast⟩ := h.of_append
    cases hlast with
    | cons heffect haccount hl =>
      cases hl
      exact slotAfter_append l m

/-- A key that is in the slot has been there before, or has come into it in an attempt. -/
lemma exists_filled (h : Evolves before l after) {k : GroupKey V} (hk : after = some k) :
    before = some k ∨ ∃ m ∈ l, m.IsAttempt ∧ generated m.report.trace = [k.pair] := by
  induction h with
  | nil slot => exact .inl hk
  | @cons before after m l heffect haccount hl ih =>
    rcases ih hk with hm | ⟨n, hn, hfilled⟩
    · by_cases hbefore : before = some k
      · exact .inl hbefore
      · obtain ⟨⟨cv, hattempts⟩, hpair⟩ := haccount.filled hm hbefore
        exact .inr ⟨m, List.mem_cons_self, ⟨_, cv, hattempts⟩, hpair⟩
    · exact .inr ⟨n, List.mem_cons_of_mem m hn, hfilled⟩

lemma filter_mark? (h : Evolves before l after) :
    Evolves before (l.filter (·.mark?.isSome)) after := by
  induction h with
  | nil slot => exact .nil slot
  | @cons before after m l heffect haccount hl ih =>
    rw [List.filter_cons]
    split
    · exact .cons heffect haccount ih
    · next hmark =>
      rw [Option.not_isSome_iff_eq_none, Moment.mark?_eq_none] at hmark
      obtain ⟨hrelease, hattempt⟩ := hmark
      -- the slot is as it was
      have hkeys : m.report.session.keys = before := by
        cases heffect with
        | idle hm hr hk => exact hk
        | released hr hk => exact absurd hr hrelease
        | reused hm => exact absurd ⟨_, _, hm⟩ hattempt
        | made hm => exact absurd ⟨_, _, hm⟩ hattempt
        | lost hm => exact absurd ⟨_, _, hm⟩ hattempt
      rwa [hkeys] at ih

end Evolves

lemma Session.evolves_history (B : Backend V σ) (s : Session (Slot V) σ)
    (curve : Option CurveName) (steps : List Step) :
    ∃ after, Evolves s.keys (s.history B curve steps) after := by
  induction steps generalizing s curve with
  | nil => exact ⟨s.keys, .nil s.keys⟩
  | cons step steps ih =>
    obtain ⟨after, h⟩ := ih (step.perform B s).session
      (step.keptCurve s.keys (step.perform B s).session.keys curve)
    exact ⟨after, .cons (Moment.effect rfl) (Moment.account rfl) h⟩

/-! ## Pairs that are kept apart -/

/-- The key pairs that are made in the moments of a list, in order. -/
def pairs (l : List (Moment V σ)) : List V.KeyPair :=
  l.flatMap fun m => generated m.report.trace

/-- The two purposes of key pairs are kept apart in the stream `h`. -/
structure KeptApart (h : List (Moment V σ)) : Prop where
  /-- A pair that is made for a case is never that of the key in the slot. -/
  made {m n : Moment V σ} {pair : V.KeyPair} {k : GroupKey V} (hm : m ∈ h) (hkey : m.MakesKey)
    (hpair : pair ∈ generated m.report.trace) (hn : n ∈ h)
    (hk : n.report.session.keys = some k) : k.pair ≠ pair
  /-- Of the key in the slot no scalar is ever asked for. -/
  scalar {m n : Moment V σ} {pair : V.KeyPair} {a : Except Fault V.Integer} {k : GroupKey V}
    (hm : m ∈ h) (ha : .asked (.privateScalar pair) a ∈ m.report.trace) (hn : n ∈ h)
    (hk : n.report.session.keys = some k) : k.pair ≠ pair
  /-- The scalar that is written into a case is that of a pair that never is in the slot. -/
  written {m : Moment V σ} {c c' : TestCase} {r : Except Fault Unit} (hm : m ∈ h)
    (hc : m.step = .run c) (hr : m.report.result = .ran r c') (hd : c'.d ≠ c.d) :
    ∃ pair i, .asked (.privateScalar pair) (.ok i) ∈ m.report.trace ∧
      .asked (.octetsOfInteger i) c'.d ∈ m.report.trace ∧
      ∀ n ∈ h, ∀ k, n.report.session.keys = some k → k.pair ≠ pair
  /-- Two keys that come into the slot have two pairs. -/
  filled {older between newer : List (Moment V σ)} {m n : Moment V σ} {k k' : GroupKey V}
    (hsplit : h = older ++ m :: (between ++ n :: newer))
    (hm : m.report.session.keys = some k) (hbefore : slotAfter older ≠ some k)
    (hn : n.report.session.keys = some k')
    (hbefore' : slotAfter (older ++ m :: between) ≠ some k') : k.pair ≠ k'.pair

namespace Evolves

variable {before after : Slot V} {m : Moment V σ} {h older newer : List (Moment V σ)}

lemma of_split (hh : Evolves none (older ++ m :: newer) after) :
    m.Effect (slotAfter older) ∧ m.Account (slotAfter older) ∧
      Evolves none (older ++ [m]) m.report.session.keys := by
  obtain ⟨slot, holder, hlast⟩ := hh.of_append
  rw [holder.slotAfter_eq]
  cases hlast with
  | cons heffect haccount hl =>
    exact ⟨heffect, haccount, holder.append (.cons heffect haccount (.nil _))⟩

lemma of_mem (hh : Evolves before h after) (hm : m ∈ h) :
    ∃ slot, m.Effect slot ∧ m.Account slot := by
  obtain ⟨older, newer, rfl⟩ := List.append_of_mem hm
  obtain ⟨slot, -, hlast⟩ := hh.of_append
  cases hlast with
  | cons heffect haccount hl => exact ⟨slot, heffect, haccount⟩

/-- The key in the slot has come into it in an attempt. -/
lemma exists_attempt (hh : Evolves none h after) (hm : m ∈ h) {k : GroupKey V}
    (hk : m.report.session.keys = some k) :
    ∃ n ∈ h, n.IsAttempt ∧ generated n.report.trace = [k.pair] := by
  obtain ⟨older, newer, rfl⟩ := List.append_of_mem hm
  obtain ⟨-, -, hupto⟩ := hh.of_split
  rcases hupto.exists_filled hk with hnone | ⟨n, hn, hfilled⟩
  · cases hnone
  · refine ⟨n, ?_, hfilled⟩
    rw [List.append_cons]
    exact List.mem_append_left newer hn

variable {n : Moment V σ} {pair : V.KeyPair} {k k' : GroupKey V}

/-- Where no pair is given out twice, a pair that is made for a case is not made for a group. -/
lemma ne_of_makesKey (hh : Evolves none h after) (hpairs : (pairs h).Nodup) (hm : m ∈ h)
    (hkey : m.MakesKey) (hpair : pair ∈ generated m.report.trace) (hn : n ∈ h)
    (hk : n.report.session.keys = some k) : k.pair ≠ pair := by
  rintro rfl
  obtain ⟨n', hn', hattempt, hpair'⟩ := hh.exists_attempt hn hk
  have hne : m ≠ n' := by
    rintro rfl
    exact hattempt.not_makesKey hkey
  obtain ⟨-, hdisjoint⟩ := List.nodup_flatMap.1 hpairs
  have hsymm : Std.Symm (Function.onFun List.Disjoint fun m : Moment V σ =>
    generated m.report.trace) := ⟨fun _ _ => List.disjoint_symm⟩
  exact hdisjoint.forall hm hn' hne hpair (by simp [hpair'])

lemma ne_of_scalar (hh : Evolves none h after) (hpairs : (pairs h).Nodup) (hm : m ∈ h)
    {a : Except Fault V.Integer} (ha : .asked (.privateScalar pair) a ∈ m.report.trace)
    (hn : n ∈ h) (hk : n.report.session.keys = some k) : k.pair ≠ pair := by
  obtain ⟨slot, -, haccount⟩ := hh.of_mem hm
  obtain ⟨hkey, hpair⟩ := haccount.scalar ha
  exact hh.ne_of_makesKey hpairs hm hkey (by simp [hpair]) hn hk

lemma ne_of_filled {between : List (Moment V σ)}
    (hh : Evolves none (older ++ m :: (between ++ n :: newer)) after)
    (hpairs : (pairs (older ++ m :: (between ++ n :: newer))).Nodup)
    (hm : m.report.session.keys = some k) (hbefore : slotAfter older ≠ some k)
    (hn : n.report.session.keys = some k')
    (hbefore' : slotAfter (older ++ m :: between) ≠ some k') : k.pair ≠ k'.pair := by
  obtain ⟨-, haccount, -⟩ := hh.of_split
  obtain ⟨-, hpair⟩ := haccount.filled hm hbefore
  have hsplit : older ++ m :: (between ++ n :: newer) = older ++ m :: between ++ n :: newer := by
    simp
  obtain ⟨-, haccount', -⟩ := (hsplit ▸ hh).of_split
  obtain ⟨-, hpair'⟩ := haccount'.filled hn hbefore'
  -- the two moments stand at different places
  obtain ⟨-, hdisjoint⟩ := List.nodup_flatMap.1 hpairs
  obtain ⟨-, hlater, -⟩ := List.pairwise_append.1 hdisjoint
  have hmn : (generated m.report.trace).Disjoint (generated n.report.trace) :=
    (List.pairwise_cons.1 hlater).1 n (by simp)
  rw [hpair, hpair', List.singleton_disjoint, List.mem_singleton] at hmn
  exact hmn

/-- **The purposes of the pairs are kept apart**, if no pair is given out twice. -/
theorem keptApart (hh : Evolves none h after) (hpairs : (pairs h).Nodup) : KeptApart h where
  made hm hkey hpair hn hk := hh.ne_of_makesKey hpairs hm hkey hpair hn hk
  scalar hm ha hn hk := hh.ne_of_scalar hpairs hm ha hn hk
  written {m c c' r} hm hc hr hd := by
    obtain ⟨slot, -, haccount⟩ := hh.of_mem hm
    obtain ⟨-, pair, i, -, ha, hwritten⟩ := haccount.written hc hr hd
    exact ⟨pair, i, ha, hwritten, fun n hn k hk => hh.ne_of_scalar hpairs hm ha hn hk⟩
  filled hsplit hm hbefore hn hbefore' := by
    subst hsplit
    exact hh.ne_of_filled hpairs hm hbefore hn hbefore'

end Evolves

/-! ## Blocks -/

/-- The moments with a mark, cut where the mark changes. -/
def blocks (h : List (Moment V σ)) : List (List (Moment V σ)) :=
  (h.filter (·.mark?.isSome)).splitBy fun m n => m.mark? = n.mark?

lemma flatten_blocks (h : List (Moment V σ)) :
    (blocks h).flatten = h.filter (·.mark?.isSome) :=
  List.flatten_splitBy _ _

lemma exists_mark_of_mem_blocks {h b : List (Moment V σ)} (hb : b ∈ blocks h) :
    b ≠ [] ∧ ∃ μ, ∀ m ∈ b, m.mark? = some μ := by
  have hne : b ≠ [] := List.ne_nil_of_mem_splitBy hb
  obtain ⟨m, hm⟩ := List.exists_mem_of_ne_nil b hne
  have hmarked : m ∈ h.filter (·.mark?.isSome) := by
    rw [← flatten_blocks]
    exact List.mem_flatten_of_mem hb hm
  obtain ⟨μ, hμ⟩ := Option.isSome_iff_exists.1 (List.mem_filter.1 hmarked).2
  have hchain : (b.map Moment.mark?).IsChain (· = ·) :=
    (List.isChain_map _).2 ((List.isChain_of_mem_splitBy hb).imp fun _ _ => of_decide_eq_true)
  refine ⟨hne, μ, fun n hn => ?_⟩
  rw [← hμ]
  exact (List.isChain_iff_pairwise.1 hchain).forall_of_forall (fun _ _ => rfl)
    (List.mem_map_of_mem hn) (List.mem_map_of_mem hm)

lemma isChain_blocks (h : List (Moment V σ)) :
    (blocks h).IsChain fun a b => ∃ ha hb, (a.getLast ha).mark? ≠ (b.head hb).mark? := by
  refine (List.isChain_getLast_head_splitBy _ _).imp ?_
  rintro a b ⟨ha, hb, hdiff⟩
  exact ⟨ha, hb, of_decide_eq_false hdiff⟩

/-- The stream `h` makes one key pair for each block of attempts, and the attempts of a block
come to the same key. -/
structure InBlocks (h : List (Moment V σ)) : Prop where
  /-- As many pairs are made in attempts as there are blocks of them. -/
  count : (pairs (h.filter (·.attempted?.isSome))).length =
    (blocks h).countP fun b => b.any (·.attempted?.isSome)
  /-- After each attempt of a block the same key is in the slot, and all attempts that succeed
  report its point. -/
  common {b : List (Moment V σ)} (hb : b ∈ blocks h) {m : Moment V σ} (hm : m ∈ b)
    (hattempt : m.IsAttempt) :
    ∃ k : GroupKey V, ∀ n ∈ b, n.attempted? = some k.group ∧
      n.report.session.keys = some k ∧
      ∀ q, n.report.result.point? = some q → q = (k.qx, k.qy)

namespace Moment

variable {m : Moment V σ} {before : Slot V}

lemma Effect.of_release (h : m.Effect before) (hm : m.step = .release) :
    m.report.session.keys = none := by
  have hattempt : ∀ g cv, ¬ m.Attempts g cv := by
    intro g cv h
    rw [Attempts, hm] at h
    exact h
  cases h with
  | idle hno hr hkeys => exact absurd hm hr
  | released hr hkeys => exact hkeys
  | reused hm' => exact absurd hm' (hattempt _ _)
  | made hm' => exact absurd hm' (hattempt _ _)
  | lost hm' => exact absurd hm' (hattempt _ _)

lemma Effect.of_fails (h : m.Effect before) (hm : m.Fails) : m.report.session.keys = none := by
  obtain ⟨hattempt, hbreaks⟩ := hm
  cases h with
  | idle hno hr hkeys => exact absurd hattempt hno
  | released hr hkeys => exact hkeys
  | reused hm' hb ha hkept hkeys => exact absurd hbreaks hb
  | made hm' hb ha hmiss hmade hkeys => exact absurd hbreaks hb
  | lost hm' hb ha hmiss hkeys => exact hkeys

/-- An attempt that finds a key of its group leaves it, and makes no pair. -/
lemma Effect.of_hit (h : m.Effect before) {k : GroupKey V} {cv : V.Curve}
    (hm : m.Attempts k.group cv) (hk : before = some k) :
    m.report.session.keys = some k ∧ generated m.report.trace = [] := by
  have hattempt : m.IsAttempt := ⟨_, cv, hm⟩
  have hfind : before.find? k.group = some k := Slot.find?_eq_some.2 ⟨hk, rfl⟩
  have hasks : ¬ AsksForPair m.report.trace := by
    intro hasks
    cases ((h.misses_iff hm).1 ⟨hattempt, hasks⟩).symm.trans hfind
  cases h with
  | idle hno hr hkeys => exact absurd hattempt hno
  | released hr hkeys => exact absurd hattempt (not_isAttempt_of_release hr)
  | made hm' hb ha hmiss hmade hkeys => exact absurd ha hasks
  | lost hm' hb ha hmiss hkeys => exact absurd ha hasks
  | reused hm' hb ha hkept hkeys =>
    obtain rfl := Option.some.inj (hkept.symm.trans hk)
    exact ⟨hkeys, generated_eq_nil (mt asksForPair_iff_mem.2 hasks)⟩

/-- An attempt that finds no key of its group makes one pair for it, unless it fails. -/
lemma Effect.of_miss (h : m.Effect before) {g : UInt32} {cv : V.Curve} (hm : m.Attempts g cv)
    (hmiss : before.find? g = none) (hfails : ¬ m.Fails) :
    ∃ k, k.group = g ∧ m.report.session.keys = some k ∧
      generated m.report.trace = [k.pair] := by
  have hattempt : m.IsAttempt := ⟨g, cv, hm⟩
  obtain ⟨-, hasks⟩ := (h.misses_iff hm).2 hmiss
  have heffect := h
  cases h with
  | idle hno hr hkeys => exact absurd hattempt hno
  | released hr hkeys => exact absurd hattempt (not_isAttempt_of_release hr)
  | reused hm' hb ha hkept hkeys => exact absurd hasks ha
  | lost hm' hb ha hmiss hkeys => exact absurd ⟨hattempt, hb⟩ hfails
  | @made k cv' hm' hb ha hmiss' hmade hkeys =>
    have hbefore : before ≠ some k := by
      rintro rfl
      cases hmiss'.symm.trans (Slot.find?_eq_some.2 ⟨rfl, rfl⟩)
    exact ⟨k, hm'.group_eq hm, hkeys, (heffect.filled hkeys hbefore).2⟩

end Moment

namespace Evolves

variable {before after : Slot V} {m : Moment V σ} {b : List (Moment V σ)} {g : UInt32}

/-- Attempts for the group of the key in the slot make no pair, and leave the key. -/
lemma of_hits {k : GroupKey V} (h : Evolves before b after) (hk : before = some k)
    (hb : ∀ m ∈ b, ∃ cv, m.Attempts k.group cv) :
    after = some k ∧ pairs b = [] ∧ ∀ m ∈ b, m.report.session.keys = some k := by
  induction h with
  | nil slot => exact ⟨hk, rfl, by simp⟩
  | @cons before after m b heffect haccount hl ih =>
    obtain ⟨cv, hm⟩ := hb m List.mem_cons_self
    obtain ⟨hkeys, hpair⟩ := heffect.of_hit hm hk
    obtain ⟨hafter, hpairs, hrest⟩ := ih hkeys fun n hn => hb n (List.mem_cons_of_mem m hn)
    refine ⟨hafter, ?_, ?_⟩
    · rw [pairs, List.flatMap_cons, hpair, List.nil_append]
      exact hpairs
    · rintro n (_ | ⟨_, hn⟩)
      · exact hkeys
      · exact hrest n hn

/-- A block of attempts for a group whose key is not in the slot makes one pair. -/
lemma of_block (h : Evolves before b after) (hne : b ≠ [])
    (hb : ∀ m ∈ b, ∃ cv, m.Attempts g cv) (hmiss : before.find? g = none)
    (hfails : ∀ m ∈ b, ¬ m.Fails) :
    ∃ k, k.group = g ∧ after = some k ∧ (pairs b).length = 1 ∧
      ∀ m ∈ b, m.report.session.keys = some k := by
  cases h with
  | nil slot => exact absurd rfl hne
  | @cons _ _ m b heffect haccount hl =>
    obtain ⟨cv, hm⟩ := hb m List.mem_cons_self
    obtain ⟨k, rfl, hkeys, hpair⟩ := heffect.of_miss hm hmiss (hfails m List.mem_cons_self)
    obtain ⟨hafter, hpairs, hrest⟩ := hl.of_hits hkeys
      fun n hn => hb n (List.mem_cons_of_mem m hn)
    refine ⟨k, rfl, hafter, ?_, ?_⟩
    · rw [pairs, List.flatMap_cons, hpair, ← pairs, hpairs]
      rfl
    · rintro n (_ | ⟨_, hn⟩)
      · exact hkeys
      · exact hrest n hn

lemma of_releases (h : Evolves before b after) (hne : b ≠ [])
    (hb : ∀ m ∈ b, m.step = .release) : after = none := by
  induction h with
  | nil slot => exact absurd rfl hne
  | @cons before after m b heffect haccount hl ih =>
    cases b with
    | nil =>
      cases hl
      exact heffect.of_release (hb m List.mem_cons_self)
    | cons n b => exact ih (List.cons_ne_nil n b) fun n' hn' => hb n' (List.mem_cons_of_mem m hn')

/-- A block of one mark: it makes one pair if it is one of attempts that finds no key of its
group, and none if it is one of releases.  No key of another group is in the slot afterwards. -/
lemma of_mark {μ : Option UInt32} (h : Evolves before b after) (hne : b ≠ [])
    (hμ : ∀ m ∈ b, m.mark? = some μ) (hmiss : ∀ g, μ = some g → before.find? g = none)
    (hfails : ∀ m ∈ b, ¬ m.Fails) :
    (pairs (b.filter (·.attempted?.isSome))).length =
        (if b.any (·.attempted?.isSome) then 1 else 0) ∧
      (∀ m ∈ b, m.IsAttempt → ∃ k : GroupKey V, ∀ n ∈ b,
        n.attempted? = some k.group ∧ n.report.session.keys = some k) ∧
      ∀ g, μ ≠ some g → after.find? g = none := by
  cases μ with
  | none =>
    have hrelease : ∀ m ∈ b, m.step = .release := fun m hm =>
      Moment.mark?_eq_some_none.1 (hμ m hm)
    have hno : ∀ m ∈ b, ¬ m.IsAttempt := by
      rintro m hm ⟨g, cv, hattempts⟩
      rw [Moment.Attempts, hrelease m hm] at hattempts
      exact hattempts
    have hnone : ∀ m ∈ b, ¬ m.attempted?.isSome := fun m hm =>
      mt Moment.isSome_attempted?_iff.1 (hno m hm)
    refine ⟨?_, fun m hm hattempt => absurd hattempt (hno m hm), ?_⟩
    · rw [List.filter_eq_nil_iff.2 hnone, if_neg (by simpa using hnone)]
      rfl
    · rw [h.of_releases hne hrelease]
      exact fun g _ => rfl
  | some g =>
    have hattempts : ∀ m ∈ b, ∃ cv, m.Attempts g cv := fun m hm =>
      Moment.mark?_eq_some_some.1 (hμ m hm)
    have hgroup : ∀ m ∈ b, m.attempted? = some g := fun m hm =>
      Moment.attempted?_eq_some.2 (hattempts m hm)
    have hall : ∀ m ∈ b, m.attempted?.isSome := by
      intro m hm
      rw [hgroup m hm]
      rfl
    obtain ⟨k, rfl, hafter, hpairs, hkeys⟩ := h.of_block hne hattempts (hmiss g rfl) hfails
    refine ⟨?_, fun _ _ _ => ⟨k, fun n hn => ⟨hgroup n hn, hkeys n hn⟩⟩, ?_⟩
    · obtain ⟨m, hm⟩ := List.exists_mem_of_ne_nil b hne
      rw [List.filter_eq_self.2 hall, hpairs, if_pos (List.any_eq_true.2 ⟨m, hm, hall m hm⟩)]
    · intro g' hg'
      rw [hafter]
      exact if_neg fun hk => hg' (congrArg some hk)

/-- The blocks of a list, one after the other: a block of attempts finds no key of its group,
since the block before it is one of another group, or of releases. -/
lemma of_blocks {bs : List (List (Moment V σ))} (h : Evolves before bs.flatten after)
    (hfails : ∀ m ∈ bs.flatten, ¬ m.Fails)
    (hmark : ∀ b ∈ bs, b ≠ [] ∧ ∃ μ, ∀ m ∈ b, m.mark? = some μ)
    (hchain : bs.IsChain fun a b => ∃ ha hb, (a.getLast ha).mark? ≠ (b.head hb).mark?)
    (hstart : ∀ b ∈ bs.head?, ∀ m ∈ b, ∀ g, m.mark? = some (some g) → before.find? g = none) :
    (pairs (bs.flatten.filter (·.attempted?.isSome))).length =
        bs.countP (fun b => b.any (·.attempted?.isSome)) ∧
      ∀ b ∈ bs, ∀ m ∈ b, m.IsAttempt → ∃ k : GroupKey V, ∀ n ∈ b,
        n.attempted? = some k.group ∧ n.report.session.keys = some k := by
  induction bs generalizing before with
  | nil => exact ⟨rfl, by simp⟩
  | cons b bs ih =>
    rw [List.flatten_cons] at h hfails
    obtain ⟨slot, hb, hrest⟩ := h.of_append
    obtain ⟨hne, μ, hμ⟩ := hmark b List.mem_cons_self
    obtain ⟨hnext, hchain'⟩ := List.isChain_cons.1 hchain
    have hmiss : ∀ g, μ = some g → before.find? g = none := by
      rintro g rfl
      obtain ⟨m, hm⟩ := List.exists_mem_of_ne_nil b hne
      exact hstart b rfl m hm g (hμ m hm)
    obtain ⟨hcount, hcommon, hslot⟩ := hb.of_mark hne hμ hmiss
      fun m hm => hfails m (List.mem_append_left _ hm)
    have hstart' : ∀ b' ∈ bs.head?, ∀ m ∈ b', ∀ g, m.mark? = some (some g) →
        slot.find? g = none := by
      intro b' hb' m hm g hg
      obtain ⟨-, μ', hμ'⟩ := hmark b' (List.mem_cons_of_mem b (List.mem_of_mem_head? hb'))
      obtain ⟨ha, hh, hdiff⟩ := hnext b' hb'
      rw [hμ _ (List.getLast_mem ha), hμ' _ (List.head_mem hh), ← hμ' m hm, hg] at hdiff
      exact hslot g fun h => hdiff (congrArg some h)
    obtain ⟨hcounts, hcommons⟩ := ih hrest (fun m hm => hfails m (List.mem_append_right b hm))
      (fun b' hb' => hmark b' (List.mem_cons_of_mem b hb')) hchain' hstart'
    refine ⟨?_, ?_⟩
    · rw [List.flatten_cons, List.filter_append, pairs, List.flatMap_append, List.length_append,
        List.countP_cons, ← pairs, ← pairs, hcount, hcounts, Nat.add_comm]
    · rintro b' (_ | ⟨_, hb'⟩)
      · exact hcommon
      · exact hcommons b' hb'

/-- **One pair is made for each block of attempts**, as long as no attempt fails, and the
attempts of a block come to the same key. -/
theorem inBlocks {h : List (Moment V σ)} (hh : Evolves none h after)
    (hfails : ∀ m ∈ h, ¬ m.Fails) : InBlocks h := by
  have hblocks := hh.filter_mark?
  rw [← flatten_blocks] at hblocks
  have hmem : ∀ m ∈ (blocks h).flatten, m ∈ h := by
    intro m hm
    rw [flatten_blocks] at hm
    exact List.mem_of_mem_filter hm
  obtain ⟨hcount, hcommon⟩ := hblocks.of_blocks (fun m hm => hfails m (hmem m hm))
    (fun b hb => exists_mark_of_mem_blocks hb) (isChain_blocks h) (by simp [Slot.find?])
  refine ⟨?_, ?_⟩
  · rw [← hcount, flatten_blocks, filter_attempted?_filter_mark?]
  · intro b hb m hm hattempt
    obtain ⟨k, hk⟩ := hcommon b hb m hm hattempt
    refine ⟨k, fun n hn => ⟨(hk n hn).1, (hk n hn).2, fun q hq => ?_⟩⟩
    have hattempt' : n.IsAttempt := by
      rw [← Moment.isSome_attempted?_iff, (hk n hn).1]
      rfl
    obtain ⟨slot, -, haccount⟩ := hh.of_mem (hmem n (List.mem_flatten_of_mem hb hn))
    obtain ⟨k', hk', rfl⟩ := haccount.reported hattempt' hq
    obtain rfl := Option.some.inj ((hk n hn).2.symm.trans hk')
    rfl

end Evolves

/-! ## The ledger -/

/-- What there is to say of the key pairs of the stream `h`. -/
structure Ledger (h : List (Moment V σ)) : Prop where
  /-- Each moment keeps to the account, with the slot that it finds. -/
  account {older newer : List (Moment V σ)} {m : Moment V σ} (hsplit : h = older ++ m :: newer) :
    m.Account (slotAfter older)
  /-- The pair of the key in the slot has been made in an attempt to get one. -/
  origin {m : Moment V σ} {k : GroupKey V} (hm : m ∈ h) (hk : m.report.session.keys = some k) :
    ∃ n ∈ h, n.IsAttempt ∧ generated n.report.trace = [k.pair]
  /-- If no pair is given out twice, the purposes of the pairs are kept apart. -/
  keptApart (hpairs : (pairs h).Nodup) : KeptApart h
  /-- If no attempt fails, one pair is made for each block of attempts. -/
  inBlocks (hfails : ∀ m ∈ h, ¬ m.Fails) : InBlocks h

/-- **The ledger of a stream** is kept on every backend, whatever its answers are. -/
theorem Session.ledger_history (B : Backend V σ) (b : σ) (steps : List Step) :
    Ledger ((Session.fresh b).history B none steps) := by
  obtain ⟨after, hh⟩ := (Session.fresh b).evolves_history B none steps
  generalize (Session.fresh b).history B none steps = h at hh
  refine ⟨?_, fun hm hk => hh.exists_attempt hm hk, hh.keptApart, hh.inBlocks⟩
  rintro older newer m rfl
  obtain ⟨-, haccount, -⟩ := hh.of_split
  exact haccount

namespace Mixed

/-- A case that asks for a key pair. -/
def keyCase : TestCase := { mode := .keyGen, group := 0, number := 1, curve := .p256 }

/-- A case that asks for a signature. -/
def case : TestCase :=
  { mode := .sigGen, group := 0, number := 2, curve := .p256, hash := some .sha256 }

/-- The moments of a stream with three blocks of attempts, one of them of two, and a case that
asks for a key pair.  The attempts are steps that fetch a key, and one run of a case. -/
def history : List (Moment BigInteger.values (Script × Entropy)) :=
  (Session.fresh ({ keys := [[3], [5], [7], [9]] }, { numbers := id })).history
    Stage.bigInteger.scripted none
    [.fetch 0 .p256, .run keyCase, .run case, .release, .fetch 0 .p256, .fetch 7 .p384]

end Mixed

/-- The ledger of a stream in which no pair is given out twice and no attempt fails: three pairs
are made in attempts, and one for the case that asks for it. -/
theorem ledger_history_of_mixed :
    Ledger Mixed.history ∧ KeptApart Mixed.history ∧ InBlocks Mixed.history ∧
      (pairs Mixed.history).length = 4 ∧
      (blocks Mixed.history).map List.length = [2, 1, 1, 1] := by
  have hledger : Ledger Mixed.history := Session.ledger_history _ _ _
  have hpairs : ((pairs Mixed.history).map KeyPair.scalar).Nodup := by decide +kernel
  have hfilled : ∀ m ∈ Mixed.history, m.attempted?.isSome → m.report.session.keys.isSome := by
    decide +kernel
  refine ⟨hledger, hledger.keptApart (.of_map _ hpairs), hledger.inBlocks ?_, ?_, ?_⟩
  · intro m hm hfails
    obtain ⟨after, hh⟩ := Session.evolves_history _ _ _ _
    obtain ⟨slot, heffect, -⟩ := hh.of_mem hm
    have hkeys := hfilled m hm (Moment.isSome_attempted?_iff.2 hfails.1)
    rw [heffect.of_fails hfails] at hkeys
    cases hkeys
  · decide +kernel
  · decide +kernel

end EcdsaVectors
