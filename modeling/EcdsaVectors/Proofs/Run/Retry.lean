/-
Trying again after a failure.

A case for which a signature could be made can fail for a request that goes wrong, and it can
be run again.  What this costs depends on how far the failed run has come (`Report.Leaves`):

* if a name was not found, nothing has happened yet (`TestCase.leaves_names`);
* if the key could not be made, a key pair has been drawn, and the slot has been emptied for
  it (`TestCase.Names.leaves_key`);
* if the signature could not be made, the key has been fetched and is kept
  (`TestCase.Names.leaves_signature`), and the next run finds it there.

So the second run draws the key pair that the first has not drawn, or finds the key that it has
made, and nothing is lost; except in the second case, when it draws another key pair
(`TestCase.retry_sigGen`).
-/
import EcdsaVectors.Proofs.Backend.Failing
import EcdsaVectors.Proofs.GroupKey.Drawing
import EcdsaVectors.Proofs.GroupKey.Making
namespace EcdsaVectors

open Program

variable {V : Values} {σ : Type} {B : Backend V σ} {c : TestCase} {cv : V.Curve} {d : V.Digest}
  {s t : Session (Slot V) σ} {x : Method} {f : Fault}

/-! ## The names in the case -/

/-- The names in a case stand for a curve and a hash function that the backend knows. -/
structure TestCase.Names (B : Backend V σ) (c : TestCase) (cv : V.Curve) (d : V.Digest) :
    Prop where
  curve (b : σ) : (B.respond (.curve c.curve) b).answer = some cv
  digest : ∃ name, c.hash = some name ∧ ∀ b, (B.respond (.digest name) b).answer = some d

namespace TestCase

lemma exists_names (hB : B.Functional) (hm : c.mode = .sigGen)
    (hok : (c.run (.slot V) B s).result = .ok ()) : ∃ cv d, c.Names B cv d := by
  obtain ⟨task, o, htask, -⟩ := exists_output hok
  have hasked {m : Method} {q : Request V m} {a : m.Answer V} (hq : m ≠ .generateKeyPair)
      (h : .asked q a ∈ requests (s.run B c.task).trace) (b : σ) : (B.respond q b).answer = a :=
    hB.answer_of_asked hq (mem_requests.1 h) b
  obtain ⟨q, hq⟩ : ∃ q, requests (s.run B c.task).trace = q := ⟨_, rfl⟩
  have hresolved := resolved_of_result htask
  rw [hq] at hasked hresolved
  cases hresolved with
  | keyGen hm' => cases hm'.symm.trans hm
  | keyVer hm' => cases hm'.symm.trans hm
  | sigVer hm' => cases hm'.symm.trans hm
  | sigGen hm' hhash cv d =>
    exact ⟨cv, d, hasked (by decide) (by simp), _, hhash, hasked (by decide) (by simp)⟩

/-- A case whose names are known comes to its task in every session, and leaves it as it was. -/
lemma Names.run_task (h : c.Names B cv d) (hB : B.Functional) (hm : c.mode = .sigGen)
    (t : Session (Slot V) σ) :
    (t.run B c.task).result = .ok (.sigGen cv d c.group c.message) ∧
      (t.run B c.task).state = t := by
  obtain ⟨name, hhash, hdigest⟩ := h.digest
  refine ⟨?_, hB.state_run (callsOnly_task c) (by decide) t⟩
  obtain ⟨u, hu⟩ : ∃ u, requests (t.run B c.task).trace = u := ⟨_, rfl⟩
  have hcurve {a : Option V.Curve} (ha : .asked (.curve c.curve) a ∈ u) : a = some cv := by
    obtain ⟨b, hb⟩ := exists_respond_of_task hu ha
    exact hb.symm.trans (h.curve b)
  have hhashed {a : Option V.Digest} (ha : .asked (.digest name) a ∈ u) : a = some d := by
    obtain ⟨b, hb⟩ := exists_respond_of_task hu ha
    exact hb.symm.trans (hdigest b)
  cases hr : (t.run B c.task).result with
  | error e =>
    -- one of the names would not be known
    exfalso
    have hunresolved := hu ▸ unresolved_of_result hr
    cases hunresolved with
    | curve => cases hcurve (a := none) (by simp)
    | noHash _ hnone => cases hnone.symm.trans hhash
    | hash _ hname =>
      cases hname.symm.trans hhash
      cases hhashed (a := none) (by simp)
  | ok task =>
    have hresolved := hu ▸ resolved_of_result hr
    cases hresolved with
    | keyGen hm' => cases hm'.symm.trans hm
    | keyVer hm' => cases hm'.symm.trans hm
    | sigVer hm' => cases hm'.symm.trans hm
    | sigGen _ hname cv' d' =>
      cases hname.symm.trans hhash
      cases hcurve (a := some cv') (by simp)
      cases hhashed (a := some d') (by simp)
      rfl

lemma Names.run_eq (h : c.Names B cv d) (hB : B.Functional) (hm : c.mode = .sigGen)
    {o : Outcome V (Session (Slot V) σ) Output}
    (ho : (Task.sigGen cv d c.group c.message).perform (.slot V) B s = o) :
    (c.run (.slot V) B s).result = o.result.map (fun _ => ()) ∧
      (c.run (.slot V) B s).case = o.result.toOption.elim c c.record ∧
      (c.run (.slot V) B s).session = o.state := by
  obtain ⟨hresult, hstate⟩ := h.run_task hB hm s
  rw [← hstate] at ho
  cases hr : o.result with
  | error e =>
    rw [run_of_fault hresult (ho ▸ hr), ho]
    exact ⟨rfl, rfl, rfl⟩
  | ok output =>
    rw [run_of_output hresult (ho ▸ hr), ho]
    exact ⟨rfl, rfl, rfl⟩

end TestCase

/-! ## What a failed run leaves -/

/-- The run has failed, and has left this case and this session. -/
structure Report.Leaves (r : Report V (Slot V) σ) (c : TestCase) (t : Session (Slot V) σ) :
    Prop where
  fails : ∃ e, r.result = .error e
  case : r.case = c
  session : r.session = t

namespace TestCase

lemma leaves_names (hB : B.Functional) (hm : c.mode = .sigGen) (hx : x ∈ [.curve, .digest]) :
    (c.run (.slot V) (B.failing x f) s).Leaves c s := by
  obtain ⟨e, he⟩ := c.exists_fault_task (B := B) (f := f) hm hx s.backend
  have hresult : (s.run (B.failing x f) c.task).result = .error e := he
  rw [run_of_unknown hresult]
  exact ⟨⟨e, rfl⟩, rfl, hB.failing.state_run (callsOnly_task c) (by decide) s⟩

lemma Names.leaves (h : c.Names B cv d) (hB : B.Functional) (hm : c.mode = .sigGen)
    (hx : x ∉ [.curve, .digest]) {e : Fault} {t : Session (Slot V) σ} {u : List (Entry V)}
    (ho : (Task.sigGen cv d c.group c.message).perform (.slot V) (B.failing x f) s =
      ⟨.error e, t, u⟩) :
    (c.run (.slot V) (B.failing x f) s).Leaves c t ∧
      requests (c.run (.slot V) (B.failing x f) s).trace =
        requests (s.run B c.task).trace ++ requests u := by
  obtain ⟨hresult, hstate⟩ := h.run_task hB hm s
  have hfound := c.run_task_failing (B := B) (f := f) hx s
  rw [← hfound] at hresult hstate
  have hrequests := requests_run (K := .slot V) hresult
  rw [← hstate] at ho
  rw [ho] at hrequests
  refine ⟨?_, by rw [hrequests, hfound]⟩
  rw [run_of_fault hresult (by rw [ho]), ho]
  exact ⟨⟨e, rfl⟩, rfl, rfl⟩

lemma Names.leaves_key (h : c.Names B cv d) (hB : B.Functional) (hm : c.mode = .sigGen)
    (hx : x ∈ [.publicKey, .coordinates]) (hmiss : s.keys.find? c.group = none) :
    (c.run (.slot V) (B.failing x f) s).Leaves c
        ⟨none, (B.respond (.generateKeyPair cv) s.backend).state⟩ ∧
      requests (c.run (.slot V) (B.failing x f) s).trace = requests (s.run B c.task).trace ++
        requests ((GroupKey.generate c.group cv).run (B.failing x f) s.backend).trace := by
  have hothers : x ≠ .generateKeyPair ∧ x ∉ [.curve, .digest] :=
    (by decide : ∀ y ∈ [Method.publicKey, .coordinates],
      y ≠ .generateKeyPair ∧ y ∉ [.curve, .digest]) x hx
  obtain ⟨e, he⟩ := GroupKey.exists_fault_generate (B := B) (f := f) c.group cv hx s.backend
  have hstate := GroupKey.state_generate (hB.failing (x := x) (f := f)) c.group cv s.backend
  rw [B.respond_failing_of_ne hothers.1.symm] at hstate
  have hfetch := Session.fetch_slot_of_miss hmiss
    (rfl : (GroupKey.generate c.group cv).run (B.failing x f) s.backend = _)
  rw [he, hstate] at hfetch
  obtain ⟨hleaves, hrequests⟩ := h.leaves (s := s) (f := f) hB hm hothers.2
    (by rw [Task.perform, hfetch]; exact Outcome.andThen_error _ _ _ _)
  refine ⟨hleaves, ?_⟩
  rw [hrequests, requests_append, requests_map_event, List.nil_append]

lemma Names.leaves_signature (h : c.Names B cv d) (hB : B.Functional) (hm : c.mode = .sigGen)
    (hx : x ∈ [.sign, .components]) {k : Fetched V}
    (hk : (s.fetch (.slot V) B c.group cv).result = .ok k) :
    (c.run (.slot V) (B.failing x f) s).Leaves c (s.fetch (.slot V) B c.group cv).state := by
  have hothers : x ∉ [.curve, .digest] ∧ x ∉ [.generateKeyPair, .publicKey, .coordinates,
      .octetsOfInteger, .octetsOfInteger] :=
    (by decide : ∀ y ∈ [Method.sign, .components], y ∉ [.curve, .digest] ∧
      y ∉ [.generateKeyPair, .publicKey, .coordinates, .octetsOfInteger, .octetsOfInteger]) x hx
  obtain ⟨t, ht⟩ : ∃ t, (s.fetch (.slot V) B c.group cv).state = t := ⟨_, rfl⟩
  obtain ⟨e, he⟩ := exists_fault_makeSignature (B := B) (f := f) k.key d c.message hx t.backend
  have hstate : (t.run (B.failing x f) (makeSignature k.key d c.message)).state = t :=
    hB.failing.state_run (follows_makeSignature k.key d c.message).callsOnly (by decide) t
  rw [ht]
  refine (h.leaves (e := e) (u := (s.fetch (.slot V) B c.group cv).trace ++
    (t.run (B.failing x f) (makeSignature k.key d c.message)).trace) hB hm hothers.1 ?_).1
  rw [Task.perform, Session.fetch_failing _ _ _ hothers.2, Outcome.andThen_of_ok hk, ht]
  cases hsigned : t.run (B.failing x f) (makeSignature k.key d c.message) with
  | mk r t' u =>
    rw [hsigned] at hstate
    obtain rfl : t' = t := hstate
    obtain rfl : r = .error e := (congrArg Outcome.result hsigned).symm.trans he
    rfl

end TestCase

/-! ## Running the case again -/

/-- Runs the case that a run has left once more, in the session that it has left. -/
def Report.again (B : Backend V σ) (r : Report V (Slot V) σ) : Report V (Slot V) σ :=
  r.case.run (.slot V) B r.session

/-- The first run has failed, and the second comes to the same as a single run. -/
structure Report.AtNoCost (B : Backend V σ) (r single : Report V (Slot V) σ) : Prop where
  fails : ∃ e, r.result = .error e
  result : (r.again B).result = .ok ()
  case : (r.again B).case = single.case
  session : (r.again B).session = single.session

lemma Task.perform_again {m : Octets} {g : UInt32} {k : Fetched V}
    (hk : (s.fetch (.slot V) B g cv).result = .ok k) :
    ((sigGen cv d g m).perform (.slot V) B (s.fetch (.slot V) B g cv).state).result =
        ((sigGen cv d g m).perform (.slot V) B s).result ∧
      ((sigGen cv d g m).perform (.slot V) B (s.fetch (.slot V) B g cv).state).state =
        ((sigGen cv d g m).perform (.slot V) B s).state := by
  rw [perform, perform, Session.fetch_again hk, Outcome.andThen_ok, Outcome.andThen_of_ok hk]
  exact ⟨rfl, rfl⟩

namespace TestCase

lemma Names.atNoCost (h : c.Names B cv d) (hB : B.Functional) (hm : c.mode = .sigGen)
    (hok : (c.run (.slot V) B s).result = .ok ()) {r : Report V (Slot V) σ} (hr : r.Leaves c t)
    (hagain : ((Task.sigGen cv d c.group c.message).perform (.slot V) B t).result =
        ((Task.sigGen cv d c.group c.message).perform (.slot V) B s).result ∧
      ((Task.sigGen cv d c.group c.message).perform (.slot V) B t).state =
        ((Task.sigGen cv d c.group c.message).perform (.slot V) B s).state) :
    r.AtNoCost B (c.run (.slot V) B s) := by
  obtain ⟨hresult, hcase, hsession⟩ := h.run_eq (s := s) hB hm rfl
  obtain ⟨hresult', hcase', hsession'⟩ := h.run_eq (s := t) hB hm rfl
  rw [hagain.1] at hresult' hcase'
  rw [hagain.2] at hsession'
  have hagain : r.again B = c.run (.slot V) B t := by
    rw [Report.again, hr.case, hr.session]
  refine ⟨hr.fails, ?_, ?_, ?_⟩
  · rw [hagain, hresult', ← hresult, hok]
  · rw [hagain, hcase', ← hcase]
  · rw [hagain, hsession', ← hsession]

lemma Names.exists_fetched (h : c.Names B cv d) (hB : B.Functional) (hm : c.mode = .sigGen)
    (hok : (c.run (.slot V) B s).result = .ok ()) :
    ∃ k, (s.fetch (.slot V) B c.group cv).result = .ok k := by
  obtain ⟨hresult, -⟩ := h.run_eq (s := s) hB hm rfl
  rw [hok] at hresult
  cases ho : ((Task.sigGen cv d c.group c.message).perform (.slot V) B s).result with
  | error e =>
    rw [ho] at hresult
    cases hresult
  | ok o =>
    obtain ⟨k, hk, -⟩ := Outcome.exists_of_andThen ho
    exact ⟨k, hk⟩

/-- A fault before the key is fetched, or after, costs nothing. -/
lemma Names.atNoCost_of_failing (h : c.Names B cv d) (hB : B.Functional) (hm : c.mode = .sigGen)
    (hok : (c.run (.slot V) B s).result = .ok ())
    (hx : x ∈ [.curve, .digest, .sign, .components]) :
    (c.run (.slot V) (B.failing x f) s).AtNoCost B (c.run (.slot V) B s) := by
  rcases List.mem_append.1 (show x ∈ [.curve, .digest] ++ [.sign, .components] from hx)
    with hx | hx
  · exact h.atNoCost hB hm hok (leaves_names hB hm hx) ⟨rfl, rfl⟩
  · obtain ⟨k, hk⟩ := h.exists_fetched hB hm hok
    exact h.atNoCost hB hm hok (h.leaves_signature hB hm hx hk) (Task.perform_again hk)

end TestCase

/-! ## Another key pair -/

/-- A key has been made of a key pair for the case, and is kept, and the case has been signed
with it.  All requests of the run are told, and what has been made of the answers. -/
structure Report.SignedWith (r : Report V (Slot V) σ) (c : TestCase) (cv : V.Curve)
    (d : V.Digest) (pair : V.KeyPair) : Prop where
  result : r.result = .ok ()
  signed : ∃ name key x y qx qy S i j r₁ s₁,
    requests r.trace = [.asked (.curve c.curve) (some cv), .asked (.digest name) (some d),
      .asked (.generateKeyPair cv) (.ok pair), .asked (.publicKey pair) (.ok key),
      .asked (.coordinates key) (.ok (x, y)), .asked (.octetsOfInteger x) qx,
      .asked (.octetsOfInteger y) qy, .asked (.sign pair d c.message) (.ok S),
      .asked (.components S) (.ok (i, j)), .asked (.octetsOfInteger i) r₁,
      .asked (.octetsOfInteger j) s₁] ∧
    r.case = { c with qx := qx, qy := qy, r := r₁, s := s₁ } ∧
    r.session.keys = some ⟨c.group, pair, qx, qy⟩

lemma TestCase.Names.signedWith (h : c.Names B cv d) (hB : B.Functional) (hm : c.mode = .sigGen)
    (hmiss : s.keys.find? c.group = none) {pair : V.KeyPair}
    (hpair : (B.respond (.generateKeyPair cv) s.backend).answer = .ok pair)
    (hsign : B.CanSign s.backend pair d c.message) :
    (c.run (.slot V) B s).SignedWith c cv d pair ∧
      (c.run (.slot V) B s).session.backend =
        (B.respond (.generateKeyPair cv) s.backend).state := by
  obtain ⟨hresult, hstate⟩ := h.run_task hB hm s
  obtain ⟨key, x, y, qx, qy, u, hfetch, hu⟩ :=
    Session.fetch_of_pair (g := c.group) hB hmiss hpair hsign
  obtain ⟨S, i, j, r₁, s₁, v, hsigned, hv⟩ := Session.run_makeSignature hB
    (k := ⟨c.group, pair, qx, qy⟩) hsign (⟨some ⟨c.group, pair, qx, qy⟩,
      (B.respond (.generateKeyPair cv) s.backend).state⟩ : Session (Slot V) σ)
  have hperform : (Task.sigGen cv d c.group c.message).perform (.slot V) B s =
      ⟨.ok (.signature r₁ s₁ qx qy), ⟨some ⟨c.group, pair, qx, qy⟩,
        (B.respond (.generateKeyPair cv) s.backend).state⟩, u ++ v⟩ := by
    rw [Task.perform, hfetch, Outcome.andThen_ok, hsigned]
    rfl
  obtain ⟨q, hq⟩ : ∃ q, requests (s.run B c.task).trace = q := ⟨_, rfl⟩
  have hresolved := resolved_of_result hresult
  have hrequests := requests_run (K := .slot V) hresult
  rw [hq] at hresolved hrequests
  rw [hstate, hperform, requests_append, hu, hv] at hrequests
  have hrun := h.run_eq hB hm hperform
  cases hresolved with
  | sigGen hm' hhash =>
    exact ⟨⟨hrun.1, _, key, x, y, qx, qy, S, i, j, r₁, s₁, hrequests, hrun.2.1,
      congrArg Session.keys hrun.2.2⟩, congrArg Session.backend hrun.2.2⟩

/-- The first run has failed over the key that was to be made: no key is kept, one key pair has
been used up, and the second run makes its key of the next one. -/
structure Report.AtOneKey (B : Backend V σ) (r : Report V (Slot V) σ) (s : Session (Slot V) σ)
    (c : TestCase) (cv : V.Curve) (d : V.Digest) : Prop where
  fails : ∃ e, r.result = .error e
  empty : r.session.keys = none
  drawn : ∃ pair, .asked (.generateKeyPair cv) (.ok pair) ∈ r.trace
  once : (methods r.trace).count .generateKeyPair = 1
  backend : r.session.backend = (B.respond (.generateKeyPair cv) s.backend).state
  next {pair : V.KeyPair}
    (hpair : (B.respond (.generateKeyPair cv) r.session.backend).answer = .ok pair)
    (hsign : B.CanSign r.session.backend pair d c.message) :
    (r.again B).SignedWith c cv d pair ∧ (r.again B).session.backend =
      (B.respond (.generateKeyPair cv) r.session.backend).state

namespace TestCase

/-- A fault at the point of a new key costs the key pair of which it was to be made. -/
lemma Names.atOneKey (h : c.Names B cv d) (hB : B.Functional) (hm : c.mode = .sigGen)
    (hok : (c.run (.slot V) B s).result = .ok ()) (hmiss : s.keys.find? c.group = none)
    (hx : x ∈ [.publicKey, .coordinates]) :
    (c.run (.slot V) (B.failing x f) s).AtOneKey B s c cv d := by
  have hne : .generateKeyPair ≠ x :=
    (by decide : ∀ y ∈ [Method.publicKey, .coordinates], .generateKeyPair ≠ y) x hx
  obtain ⟨hleaves, hrequests⟩ := h.leaves_key (f := f) hB hm hx hmiss
  have hquiet : Quiet (requests (s.run B c.task).trace) := by
    intro y hy
    have hcalls := callsOnly_task c _ _ (course_run B c.task s.backend) hy
    exact (by decide : ∀ y ∈ [Method.curve, .digest],
      y ≠ .generateKeyPair ∧ y ≠ .publicKey ∧ y ≠ .coordinates) y hcalls
  -- the run without faults has made its key of the pair that is drawn here
  obtain ⟨k, hk⟩ := h.exists_fetched hB hm hok
  rw [Session.fetch_slot_of_miss hmiss rfl] at hk
  cases hmade : ((GroupKey.generate c.group cv).run B s.backend).result with
  | error e =>
    rw [hmade] at hk
    cases hk
  | ok k =>
    obtain ⟨pair, hpair⟩ := GroupKey.exists_pair_of_generate hmade
    refine ⟨hleaves.fails, by rw [hleaves.session], ⟨pair, ?_⟩, ?_, by rw [hleaves.session], ?_⟩
    · obtain ⟨u, hu⟩ :=
        GroupKey.exists_trace_generate (B.failing x f) c.group cv s.backend
      rw [B.respond_failing_of_ne hne, hpair] at hu
      rw [← mem_requests, hrequests, hu]
      exact List.mem_append_right _ List.mem_cons_self
    · rw [← List.append_nil (_ ++ _)] at hrequests
      rw [count_generateKeyPair hrequests hquiet (by rintro y ⟨⟩), methods_requests]
      exact GroupKey.count_generate c.group cv s.backend
    · intro pair hpair hsign
      rw [hleaves.session] at hpair hsign ⊢
      rw [Report.again, hleaves.case, hleaves.session]
      exact h.signedWith hB hm rfl hpair hsign

/-- **A failed signature can be tried again.**  Take a backend whose state serves the making of
key pairs only, and a case for which a signature can be made, with any key in the slot and
whatever key pairs are still to come.  If a name in the case is not found, or the signature
cannot be made or taken apart, the case that is left is run again with the same end as if
nothing had happened.  If a key cannot be made because its point cannot be had, the slot is
empty and a key pair has been used up; then the case is signed with the next one. -/
theorem retry_sigGen (hB : B.Functional) (hm : c.mode = .sigGen)
    (hok : (c.run (.slot V) B s).result = .ok ()) (f : Fault) :
    (∀ x ∈ [Method.curve, .digest, .sign, .components],
      (c.run (.slot V) (B.failing x f) s).AtNoCost B (c.run (.slot V) B s)) ∧
    (s.keys.find? c.group = none → ∃ cv d, c.Names B cv d ∧
      ∀ x ∈ [Method.publicKey, .coordinates],
        (c.run (.slot V) (B.failing x f) s).AtOneKey B s c cv d) := by
  obtain ⟨cv, d, h⟩ := exists_names hB hm hok
  exact ⟨fun x hx => h.atNoCost_of_failing hB hm hok hx,
    fun hmiss => ⟨cv, d, h, fun x hx => h.atOneKey hB hm hok hmiss hx⟩⟩

end TestCase

namespace Retried

/-- A case for which a signature is to be made. -/
def case : TestCase :=
  { mode := .sigGen, group := 0, number := 1, curve := .p256, hash := some .sha256 }

/-- A session with no key. -/
def start : Session (Slot FixedWidth.values) Entropy := ⟨none, { numbers := id }⟩

/-- The run without faults. -/
def single : Report FixedWidth.values (Slot FixedWidth.values) Entropy :=
  case.run (.slot _) (.fixedWidth .standard) start

/-- The run with a method that fails. -/
def failed (x : Method) : Report FixedWidth.values (Slot FixedWidth.values) Entropy :=
  case.run (.slot _) ((Backend.fixedWidth .standard).failing x .signing) start

/-- The curve of the case. -/
def curve : FixedWidth.Curve := ⟨.p256, .standard .p256, .sha256⟩

/-- The source of random numbers after the first key pair. -/
def later : Entropy := (FixedWidth.randomKeyPair? curve start.backend).2

end Retried

/-- A signature is retried after a fault at each of six methods, and after two of them with the
second key pair of the source. -/
theorem retry_sigGen_of_retried :
    (Backend.fixedWidth .standard).Functional ∧ Retried.single.result = .ok () ∧
    (∀ x ∈ [Method.curve, .digest, .sign, .components],
      (Retried.failed x).AtNoCost (.fixedWidth .standard) Retried.single) ∧
    ∀ x ∈ [Method.publicKey, .coordinates], ∃ pair,
      ((Retried.failed x).again (.fixedWidth .standard)).SignedWith Retried.case Retried.curve
        .sha256 pair := by
  have hB : (Backend.fixedWidth .standard).Functional := FixedWidth.functional .standard
  have hok : Retried.single.result = .ok () := by decide +kernel
  obtain ⟨hfree, hkey⟩ := TestCase.retry_sigGen hB rfl hok .signing
  refine ⟨hB, hok, hfree, fun x hx => ?_⟩
  obtain ⟨cv, d, hnames, hnext⟩ := hkey rfl
  obtain rfl : Retried.curve = cv := Option.some.inj (hnames.curve { numbers := id })
  obtain ⟨name, hhash, hdigest⟩ := hnames.digest
  obtain rfl : HashName.sha256 = name := Option.some.inj hhash
  obtain rfl : HashName.sha256 = d := Option.some.inj (hdigest { numbers := id })
  -- the second key pair, and a signature with it
  have hsigns : ((FixedWidth.randomKeyPair? Retried.curve Retried.later).1.bind fun pair =>
      FixedWidth.signature? pair .sha256 []).isSome := by decide +kernel
  obtain ⟨S, hS⟩ := Option.isSome_iff_exists.1 hsigns
  obtain ⟨pair, hpair, hS⟩ := Option.bind_eq_some_iff.1 hS
  have hkey : (Retried.failed x).AtOneKey (.fixedWidth .standard) Retried.start Retried.case
      Retried.curve .sha256 := hnext x hx
  have hlater : (Retried.failed x).session.backend = Retried.later := hkey.backend
  refine ⟨pair, (hkey.next ?_ ⟨⟨_, _, rfl, rfl⟩, S, _, ?_, rfl⟩).1⟩
  · change Fault.keyGeneration.unless (FixedWidth.randomKeyPair? Retried.curve _).1 = _
    rw [hlater, hpair]
    rfl
  · change Fault.signing.unless (FixedWidth.signature? pair .sha256 []) = _
    rw [hS]
    rfl

end EcdsaVectors
