/-
Drawing key pairs.

On a functional backend the making of a key uses up one key pair, whether a key comes of it or
not (`GroupKey.state_generate`, `GroupKey.count_generate`).  Whether one does, and whether a
signature can be made with it, depends on the pair alone: it is enough that the calls for the
point of the pair and for the signature succeed (`Backend.CanSign`).
-/
import EcdsaVectors.Proofs.Backend.Functional
import EcdsaVectors.Proofs.GroupKey.Fetch
namespace EcdsaVectors

open Program

variable {V : Values} {κ σ : Type} {B : Backend V σ} {cv : V.Curve} {d : V.Digest}

/-- The calls for the point of a key pair and for a signature with it all succeed. -/
structure Backend.CanSign (B : Backend V σ) (b : σ) (pair : V.KeyPair) (d : V.Digest)
    (m : Octets) : Prop where
  point : ∃ key p, (B.respond (.publicKey pair) b).answer = .ok key ∧
    (B.respond (.coordinates key) b).answer = .ok p
  signature : ∃ S p, (B.respond (.sign pair d m) b).answer = .ok S ∧
    (B.respond (.components S) b).answer = .ok p

/-! ## The making of a key -/

namespace GroupKey

variable {g : UInt32} {pair : V.KeyPair} {b : σ} {k : GroupKey V}

lemma exists_trace_generate (B : Backend V σ) (g : UInt32) (cv : V.Curve) (b : σ) :
    ∃ u, ((generate g cv).run B b).trace =
      .asked (.generateKeyPair cv) (B.respond (.generateKeyPair cv) b).answer :: u :=
  ⟨_, rfl⟩

lemma answer_of_generate {x : Except Fault V.KeyPair} {u : List (Entry V)}
    (h : requests ((generate g cv).run B b).trace = .asked (.generateKeyPair cv) x :: u) :
    (B.respond (.generateKeyPair cv) b).answer = x := by
  obtain ⟨v, hv⟩ := exists_trace_generate B g cv b
  rw [hv, requests_cons_asked] at h
  cases h
  rfl

/-- A key pair is asked for no more than once. -/
lemma not_mem_methods_of_generate {u : List (Entry V)} {x : Except Fault V.KeyPair}
    (h : ((generate g cv).run B b).trace = .asked (.generateKeyPair cv) x :: u) :
    .generateKeyPair ∉ methods u := by
  have hfollows := (follows_generate g cv _ _ (course_run B _ b)).1
  rw [methods_requests, h, methods_cons_asked, List.cons_prefix_cons] at hfollows
  intro hmem
  simpa using hfollows.2.subset hmem

lemma count_generate (g : UInt32) (cv : V.Curve) (b : σ) :
    (methods ((generate g cv).run B b).trace).count .generateKeyPair = 1 := by
  obtain ⟨u, hu⟩ := exists_trace_generate B g cv b
  rw [hu, methods_cons_asked, List.count_cons_self,
    List.count_eq_zero.2 (not_mem_methods_of_generate hu)]

/-- The making of a key uses up one key pair, whether it succeeds or not. -/
lemma state_generate (hB : B.Functional) (g : UInt32) (cv : V.Curve) (b : σ) :
    ((generate g cv).run B b).state = (B.respond (.generateKeyPair cv) b).state := by
  obtain ⟨k, hk⟩ : ∃ k, generate g cv = .ask (.generateKeyPair cv) k := ⟨_, rfl⟩
  have hrun := run_ask B (.generateKeyPair cv) k b
  rw [← hk] at hrun
  have hrest := not_mem_methods_of_generate (congrArg Outcome.trace hrun)
  rw [hrun]
  refine hB.state_run_of_not_mem fun hmem => hrest ?_
  exact (methods_append _ _).symm ▸ List.mem_append_right _ hmem

/-- The key is made of the pair that is drawn. -/
lemma exists_of_generate (hB : B.Functional) {m : Octets}
    (hpair : (B.respond (.generateKeyPair cv) b).answer = .ok pair)
    (h : B.CanSign b pair d m) :
    ∃ qx qy, ((generate g cv).run B b).result = .ok ⟨g, pair, qx, qy⟩ := by
  obtain ⟨key, p, hkey, hp⟩ := h.point
  have hcourse := course_run B (generate g cv) b
  cases hr : ((generate g cv).run B b).result with
  | ok k =>
    rw [hr] at hcourse
    obtain ⟨hgroup, key, u, hu, -⟩ := course_generate_ok hcourse
    have hdrawn := answer_of_generate hu
    cases hpair.symm.trans hdrawn
    exact ⟨k.qx, k.qy, by rw [← hgroup]⟩
  | error e =>
    -- one of the three calls would have failed
    exfalso
    rw [hr] at hcourse
    rcases course_generate_error hcourse with ⟨u, hu⟩ | ⟨pair', u, hu⟩ | ⟨pair', key', u, hu⟩
    · cases hpair.symm.trans (answer_of_generate hu)
    · cases hpair.symm.trans (answer_of_generate hu)
      have hfault : (B.respond (.publicKey pair) b).answer = .error e :=
        hB.answer_of_requests hu (by decide) (by simp) b
      cases hkey.symm.trans hfault
    · cases hpair.symm.trans (answer_of_generate hu)
      have hkey' : (B.respond (.publicKey pair) b).answer = .ok key' :=
        hB.answer_of_requests hu (by decide) (by simp) b
      cases hkey.symm.trans hkey'
      have hfault : (B.respond (.coordinates key) b).answer = .error e :=
        hB.answer_of_requests hu (by decide) (by simp) b
      cases hp.symm.trans hfault

lemma exists_pair_of_generate (h : ((generate g cv).run B b).result = .ok k) :
    ∃ pair, (B.respond (.generateKeyPair cv) b).answer = .ok pair := by
  obtain ⟨-, key, u, hu, -⟩ := course_generate_ok (h ▸ course_run B (generate g cv) b)
  exact ⟨_, answer_of_generate hu⟩

end GroupKey

/-! ## In a session -/

namespace Session

variable {s : Session (Slot V) σ} {g : UInt32}

/-- A key is made of the pair that is drawn, and is kept. -/
lemma fetch_of_pair (hB : B.Functional) {m : Octets}
    (hmiss : s.keys.find? g = none) {pair : V.KeyPair}
    (hpair : (B.respond (.generateKeyPair cv) s.backend).answer = .ok pair)
    (hsign : B.CanSign s.backend pair d m) :
    ∃ key x y qx qy u, s.fetch (.slot V) B g cv =
        ⟨.ok ⟨false, g, pair, qx, qy⟩, ⟨some ⟨g, pair, qx, qy⟩,
          (B.respond (.generateKeyPair cv) s.backend).state⟩, u⟩ ∧
      requests u = [.asked (.generateKeyPair cv) (.ok pair), .asked (.publicKey pair) (.ok key),
        .asked (.coordinates key) (.ok (x, y)), .asked (.octetsOfInteger x) qx,
        .asked (.octetsOfInteger y) qy] := by
  obtain ⟨qx, qy, hk⟩ := GroupKey.exists_of_generate (g := g) hB hpair hsign
  have hcourse := course_run B (GroupKey.generate g cv) s.backend
  have hfetch := fetch_slot_of_miss hmiss (rfl : (GroupKey.generate g cv).run B s.backend = _)
  rw [GroupKey.state_generate hB, hk] at hfetch
  rw [hk] at hcourse
  obtain ⟨-, key, u, hu, hwritten⟩ := GroupKey.course_generate_ok hcourse
  obtain ⟨x, y, rfl⟩ := Codec.course_writePoint_ok hwritten
  refine ⟨key, x, y, qx, qy, _, hfetch, ?_⟩
  rw [requests_append, requests_map_event, hu]
  rfl

lemma fetch_again {k : Fetched V}
    (hk : (s.fetch (.slot V) B g cv).result = .ok k) :
    (s.fetch (.slot V) B g cv).state.fetch (.slot V) B g cv =
      ⟨.ok ⟨true, k.key⟩, (s.fetch (.slot V) B g cv).state, [.event (.groupKeyReused g)]⟩ := by
  have hkept := keys_fetch_slot hk
  exact fetch_slot_of_hit (Slot.find?_eq_some.2 hkept)

lemma run_makeSignature (hB : B.Functional) {k : GroupKey V} {b : σ} {m : Octets}
    (hsign : B.CanSign b k.pair d m) (t : Session κ σ) :
    ∃ S i j r₁ s₁ u, t.run B (makeSignature k d m) =
        ⟨.ok (.signature r₁ s₁ k.qx k.qy), t, u⟩ ∧
      requests u = [.asked (.sign k.pair d m) (.ok S), .asked (.components S) (.ok (i, j)),
        .asked (.octetsOfInteger i) r₁, .asked (.octetsOfInteger j) s₁] := by
  obtain ⟨S, p, hS, hp⟩ := hsign.signature
  have hcourse := course_run B (makeSignature k d m) t.backend
  have hstate := hB.state_run_of_callsOnly (follows_makeSignature k d m).callsOnly (by decide)
    t.backend
  cases hr : ((makeSignature k d m).run B t.backend).result with
  | ok o =>
    rw [hr] at hcourse
    obtain ⟨S, i, j, r₁, s₁, rfl, hu⟩ := course_makeSignature_ok hcourse
    refine ⟨S, i, j, r₁, s₁, _, ?_, hu⟩
    rw [Session.run, Outcome.mapState, hr, hstate]
  | error e =>
    -- one of the two calls would have failed
    exfalso
    rw [hr] at hcourse
    rcases course_makeSignature_error hcourse with hu | ⟨S', hu⟩
    · have hfault : (B.respond (.sign k.pair d m) b).answer = .error e :=
        hB.answer_of_requests hu (by decide) (by simp) b
      cases hS.symm.trans hfault
    · have hS' : (B.respond (.sign k.pair d m) b).answer = .ok S' :=
        hB.answer_of_requests hu (by decide) (by simp) b
      cases hS.symm.trans hS'
      have hfault : (B.respond (.components S) b).answer = .error e :=
        hB.answer_of_requests hu (by decide) (by simp) b
      cases hp.symm.trans hfault

end Session

end EcdsaVectors
