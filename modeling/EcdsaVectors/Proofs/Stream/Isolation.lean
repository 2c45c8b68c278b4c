/-
Cases are isolated from one another.

What a case can leave behind for the next one is the session: the keys that are kept, and the
state of the backend.  On a backend whose state serves the making of key pairs only, a case
for which no key pair is wanted leaves the session as it was; so it makes no difference to
all others whether it was there at all.

* `TestCase.Idle`: the cases for which no key pair is wanted;
* `TestCase.Idle.session_run`: such a case leaves the session as it was;
* `Session.runAll_without`: it can be left out of the stream, with any number of others.
-/
import EcdsaVectors.Proofs.Backend.Functional
import EcdsaVectors.Proofs.Run.Course
import EcdsaVectors.Proofs.Stream.Cases
namespace EcdsaVectors

open Program

variable {α : Type} {V : Values} {κ σ : Type}

/-! ## Cases that leave the session as it was -/

namespace TestCase

/-- The case wants no key pair: it is a check, or its curve is not known, or it asks for a
signature with a hash function that is missing or not known. -/
inductive Idle (B : Backend V σ) (c : TestCase) : Prop
  | check (hm : c.mode = .keyVer ∨ c.mode = .sigVer)
  | noCurve {b : σ} (h : (B.respond (.curve c.curve) b).answer = none)
  | hashMissing (hm : c.mode = .sigGen) (h : c.hash = none)
  | noHash (hm : c.mode = .sigGen) {name : HashName} (hh : c.hash = some name) {b : σ}
      (h : (B.respond (.digest name) b).answer = none)

variable {B : Backend V σ} {c : TestCase}

lemma Idle.check_of_result (h : c.Idle B) (hB : B.Functional) {s : Session κ σ} {task : Task V}
    (hr : (s.run B c.task).result = .ok task) : c.mode = .keyVer ∨ c.mode = .sigVer := by
  obtain ⟨u, hu⟩ : ∃ u, requests (s.run B c.task).trace = u := ⟨_, rfl⟩
  -- what has been found in this run is found in every state
  have hasked {m : Method} {q : Request V m} {a : m.Answer V} (hq : m ≠ .generateKeyPair)
      (ha : .asked q a ∈ u) (b : σ) : (B.respond q b).answer = a :=
    hB.answer_of_requests hu hq ha b
  have hresolved := hu ▸ resolved_of_result hr
  cases hresolved with
  | keyVer hm cv => exact .inl hm
  | sigVer hm hh cv d => exact .inr hm
  | keyGen hm cv =>
    have hcurve := hasked (q := .curve c.curve) (a := some cv) (by decide) (by simp)
    cases h with
    | check hm' => exact hm'
    | noCurve h => cases (hcurve _).symm.trans h
    | hashMissing hm' => cases hm.symm.trans hm'
    | noHash hm' => cases hm.symm.trans hm'
  | @sigGen hm name hh cv d =>
    have hcurve := hasked (q := .curve c.curve) (a := some cv) (by decide) (by simp)
    have hhash := hasked (q := .digest name) (a := some d) (by decide) (by simp)
    cases h with
    | check hm' => exact hm'
    | noCurve h => cases (hcurve _).symm.trans h
    | hashMissing hm' hh' => cases hh.symm.trans hh'
    | noHash hm' hh' h =>
      cases hh.symm.trans hh'
      cases (hhash _).symm.trans h

/-- **A case that wants no key pair leaves the session as it was**, whatever it comes to. -/
theorem Idle.session_run (h : c.Idle B) (hB : B.Functional) (K : KeyStore V κ)
    (s : Session κ σ) : (c.run K B s).session = s := by
  have htask : (s.run B c.task).state = s := hB.state_run (callsOnly_task c) (by decide) s
  cases hr : (s.run B c.task).result with
  | error f =>
    rw [run_of_unknown hr]
    exact htask
  | ok task =>
    obtain ⟨q, hresolved⟩ : ∃ q, c.Resolved task q := ⟨_, resolved_of_result hr⟩
    rw [TestCase.session_run hr, htask]
    -- the task of a check makes no key pair either
    have hm := h.check_of_result hB hr
    cases hresolved with
    | keyGen hm' cv => simp [hm'] at hm
    | sigGen hm' hh cv d => simp [hm'] at hm
    | keyVer hm' cv => exact hB.state_run (callsOnly_checkKey cv c.qx c.qy) (by decide) s
    | sigVer hm' hh cv d =>
      exact hB.state_run (callsOnly_checkSignature cv d c.message c.qx c.qy c.r c.s) (by decide) s

end TestCase

/-! ## Streams without some of their cases -/

/-- The list without its entries at the places in `J`. -/
def without (J : Nat → Bool) : List α → List α
  | [] => []
  | a :: l =>
    let rest := without (fun i => J (i + 1)) l
    if J 0 then rest else a :: rest

/-- The session that a stream of cases leaves. -/
def Session.afterAll (K : KeyStore V κ) (B : Backend V σ) (s : Session κ σ)
    (cs : List TestCase) : Session κ σ :=
  cs.foldl (fun s c => (c.run K B s).session) s

/-- **Cases are isolated from one another.**  On a backend whose state serves the making of key
pairs only, cases that want no key pair can be left out of a stream, any of them: the reports
of all others are the same, and so is the session that is left. -/
theorem Session.runAll_without {B : Backend V σ} (hB : B.Functional) (K : KeyStore V κ)
    (s : Session κ σ) (cs : List TestCase) (J : Nat → Bool)
    (hJ : ∀ i (h : i < cs.length), J i → cs[i].Idle B) :
    s.runAll K B (without J cs) = without J (s.runAll K B cs) ∧
      s.afterAll K B (without J cs) = s.afterAll K B cs := by
  induction cs generalizing s J with
  | nil => exact ⟨rfl, rfl⟩
  | cons c cs ih =>
    have hrest : ∀ i (h : i < cs.length), J (i + 1) → cs[i].Idle B :=
      fun i h => hJ (i + 1) (Nat.succ_lt_succ h)
    obtain ⟨hreports, hsession⟩ := ih (c.run K B s).session (fun i => J (i + 1)) hrest
    cases h₀ : J 0 with
    | true =>
      -- the case is left out, and the others begin with the session that it found
      have hidle : c.Idle B := hJ 0 (Nat.zero_lt_succ _) h₀
      rw [hidle.session_run hB] at hreports hsession
      simp only [without, h₀, if_true, Session.runAll, Session.afterAll, List.foldl_cons]
      rw [hidle.session_run hB]
      exact ⟨hreports, hsession⟩
    | false =>
      simp only [without, h₀, Bool.false_eq_true, if_false, Session.runAll, Session.afterAll,
        List.foldl_cons]
      exact ⟨congrArg (List.cons _) hreports, hsession⟩

namespace Interrupted

/-- A key pair and two signatures of one group, with three cases between them that come to
nothing. -/
def cases : List TestCase :=
  [{ mode := .keyGen, group := 0, number := 1, curve := .p256 },
    { mode := .sigVer, group := 0, number := 2, curve := .p256, hash := some .sha1, qx := [1] },
    { mode := .sigGen, group := 7, number := 3, curve := .p384, hash := some .sha256 },
    { mode := .sigGen, group := 8, number := 4, curve := .p256 },
    { mode := .keyGen, group := 0, number := 5, curve := .p521 },
    { mode := .sigGen, group := 7, number := 6, curve := .p384, hash := some .sha512 }]

/-- The places of the three. -/
def idle (i : Nat) : Bool := i = 1 ∨ i = 3 ∨ i = 4

/-- The backend on strings of octets, with a source of random numbers. -/
def start : Session (Slot FixedWidth.values) Entropy := .fresh { numbers := id }

end Interrupted

/-- Three cases are left out of a stream of six: a check, a case without a hash function, and
one of a curve that is not known. -/
theorem runAll_without_of_interrupted :
    (Backend.fixedWidth .standard).Functional ∧
    (∀ i (h : i < Interrupted.cases.length), Interrupted.idle i →
      Interrupted.cases[i].Idle (.fixedWidth .standard)) ∧
    Interrupted.start.runAll (.slot _) (.fixedWidth .standard)
        (without Interrupted.idle Interrupted.cases) =
      without Interrupted.idle
        (Interrupted.start.runAll (.slot _) (.fixedWidth .standard) Interrupted.cases) ∧
    Interrupted.start.afterAll (.slot _) (.fixedWidth .standard)
        (without Interrupted.idle Interrupted.cases) =
      Interrupted.start.afterAll (.slot _) (.fixedWidth .standard) Interrupted.cases := by
  have hB : (Backend.fixedWidth .standard).Functional := FixedWidth.functional .standard
  have hidle : ∀ i (h : i < Interrupted.cases.length), Interrupted.idle i →
      Interrupted.cases[i].Idle (.fixedWidth .standard) := by
    intro i h hi
    obtain rfl | rfl | rfl : i = 1 ∨ i = 3 ∨ i = 4 := by simpa [Interrupted.idle] using hi
    · exact .check (.inr rfl)
    · exact .hashMissing rfl rfl
    · exact .noCurve (b := { numbers := id }) rfl
  exact ⟨hB, hidle, Session.runAll_without hB _ _ _ _ hidle⟩

end EcdsaVectors
