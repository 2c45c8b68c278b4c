/-
Programs that do the same with other values.

A program knows nothing of the values of a backend but what it has been answered, so what it
does with the values of one backend it does with those of another.  Which values correspond to
which is told kind by kind (`Correspondence`), and two programs are `Related` if they go
through the same nodes as long as the answers correspond.  Programs are related if their parts
are (`Related.bind`).

What this is good for depends on the correspondence:

* `Related.alike`: two runs come to the same, after the same calls, if their answers correspond;
* `Related.exists_reaches`: a run comes to what can be reached by right answers, if its own
  answers correspond to right ones;
* `Related.exists_of_asked`: in such a run each request and each answer has a counterpart, so
  that whatever the correspondence says of values it says of all values of the run.
-/
import Mathlib.Data.Option.Basic
import EcdsaVectors.Proofs.Program.Course
namespace EcdsaVectors

variable {V W : Values} {σ τ α β γ δ : Type}

/-- A correspondence between the values of two backends. -/
structure Correspondence (V W : Values) where
  curve : V.Curve → W.Curve → Prop
  digest : V.Digest → W.Digest → Prop
  integer : V.Integer → W.Integer → Prop
  keyPair : V.KeyPair → W.KeyPair → Prop
  publicKey : V.PublicKey → W.PublicKey → Prop
  signature : V.Signature → W.Signature → Prop

/-- Two numbers that correspond to two others. -/
def Correspondence.integers (R : Correspondence V W) (p : V.Integer × V.Integer)
    (q : W.Integer × W.Integer) : Prop :=
  R.integer p.1 q.1 ∧ R.integer p.2 q.2

/-- Two requests of one method whose arguments correspond. -/
inductive Request.Related (R : Correspondence V W) :
    {m : Method} → Request V m → Request W m → Prop
  | curve (name : CurveName) : Related R (.curve name) (.curve name)
  | digest (name : HashName) : Related R (.digest name) (.digest name)
  | generateKeyPair {c : V.Curve} {c' : W.Curve} (hc : R.curve c c') :
    Related R (.generateKeyPair c) (.generateKeyPair c')
  | privateScalar {p : V.KeyPair} {p' : W.KeyPair} (hp : R.keyPair p p') :
    Related R (.privateScalar p) (.privateScalar p')
  | publicKey {p : V.KeyPair} {p' : W.KeyPair} (hp : R.keyPair p p') :
    Related R (.publicKey p) (.publicKey p')
  | publicKeyOfCoordinates {c : V.Curve} {c' : W.Curve} {x y : V.Integer} {x' y' : W.Integer}
    (hc : R.curve c c') (hx : R.integer x x') (hy : R.integer y y') :
    Related R (.publicKeyOfCoordinates c x y) (.publicKeyOfCoordinates c' x' y')
  | coordinates {k : V.PublicKey} {k' : W.PublicKey} (hk : R.publicKey k k') :
    Related R (.coordinates k) (.coordinates k')
  | integerOfOctets (b : Octets) : Related R (.integerOfOctets b) (.integerOfOctets b)
  | octetsOfInteger {i : V.Integer} {i' : W.Integer} (hi : R.integer i i') :
    Related R (.octetsOfInteger i) (.octetsOfInteger i')
  | sign {p : V.KeyPair} {p' : W.KeyPair} {h : V.Digest} {h' : W.Digest} (hp : R.keyPair p p')
    (hh : R.digest h h') (m : Octets) : Related R (.sign p h m) (.sign p' h' m)
  | verify {k : V.PublicKey} {k' : W.PublicKey} {h : V.Digest} {h' : W.Digest}
    {S : V.Signature} {S' : W.Signature} (hk : R.publicKey k k') (hh : R.digest h h')
    (m : Octets) (hS : R.signature S S') : Related R (.verify k h m S) (.verify k' h' m S')
  | signatureOfComponents {r s : V.Integer} {r' s' : W.Integer} (hr : R.integer r r')
    (hs : R.integer s s') :
    Related R (.signatureOfComponents r s) (.signatureOfComponents r' s')
  | components {S : V.Signature} {S' : W.Signature} (hS : R.signature S S') :
    Related R (.components S) (.components S')

/-- Requests whose arguments correspond show the same. -/
lemma Request.Related.argument?_eq {R : Correspondence V W} {m : Method} {x : Request V m}
    {x' : Request W m} (h : x.Related R x') : x.argument? = x'.argument? := by
  cases h <;> rfl

/-- Two results that are the same fault, or related values. -/
inductive SameResult (R : α → β → Prop) : Except Fault α → Except Fault β → Prop
  | ok {a : α} {b : β} (h : R a b) : SameResult R (.ok a) (.ok b)
  | error (f : Fault) : SameResult R (.error f) (.error f)

namespace SameResult

variable {R : α → β → Prop} {x : Except Fault α} {a : α} {b : β} {f : Fault}

lemma eq {y : Except Fault α} (h : SameResult Eq x y) : x = y := by
  cases h with
  | ok h => rw [h]
  | error f => rfl

lemma eq_error (h : SameResult R x (.error f)) : x = .error f := by
  cases h
  rfl

lemma exists_ok (h : SameResult R x (.ok b)) : ∃ a, x = .ok a ∧ R a b := by
  cases h with
  | ok h => exact ⟨_, rfl, h⟩

/-- A result corresponds to itself if its value does. -/
lemma refl {R : α → α → Prop} (h : ∀ a, x = .ok a → R a a) : SameResult R x x := by
  cases x with
  | ok a => exact .ok (h a rfl)
  | error f => exact .error f

variable {P : Prop} [Decidable P]

/-- A result that is a fault if `P`, and a value if not. -/
lemma eq_error_iff (h : SameResult R x (if P then .error f else .ok b)) {g : Fault} :
    x = .error g ↔ P ∧ g = f := by
  by_cases hP : P
  · rw [if_pos hP] at h
    simp [h.eq_error, hP, eq_comm]
  · rw [if_neg hP] at h
    obtain ⟨a, rfl, -⟩ := h.exists_ok
    simp [hP]

lemma of_ok (h : SameResult R (.ok a) (if P then .error f else .ok b)) : ¬ P ∧ R a b := by
  by_cases hP : P
  · rw [if_pos hP] at h
    cases h
  · rw [if_neg hP] at h
    cases h with
    | ok h => exact ⟨hP, h⟩

end SameResult

/-- Two answers of a method that correspond. -/
def Method.Related (R : Correspondence V W) : (m : Method) → m.Answer V → m.Answer W → Prop
  | .curve => Option.Rel R.curve
  | .digest => Option.Rel R.digest
  | .generateKeyPair => SameResult R.keyPair
  | .privateScalar => SameResult R.integer
  | .publicKey => SameResult R.publicKey
  | .publicKeyOfCoordinates => SameResult (Option.Rel R.publicKey)
  | .coordinates => SameResult R.integers
  | .integerOfOctets => SameResult R.integer
  | .octetsOfInteger => Eq
  | .sign => SameResult R.signature
  | .verify => SameResult Eq
  | .signatureOfComponents => SameResult R.signature
  | .components => SameResult R.integers

namespace Program

/-- The two programs do the same with values that correspond, and what they give is related by
`Q`. -/
inductive Related (R : Correspondence V W) (Q : α → β → Prop) :
    Program V α → Program W β → Prop
  | done {a : α} {b : β} (h : Q a b) : Related R Q (.done a) (.done b)
  | fail (f : Fault) : Related R Q (.fail f) (.fail f)
  | log (e : Event) {p : Program V α} {q : Program W β} (h : Related R Q p q) :
    Related R Q (.log e p) (.log e q)
  | ask {m : Method} {x : Request V m} {x' : Request W m} {k : m.Answer V → Program V α}
    {k' : m.Answer W → Program W β} (hx : x.Related R x')
    (hk : ∀ a a', m.Related R a a' → Related R Q (k a) (k' a')) :
    Related R Q (.ask x k) (.ask x' k')

namespace Related

variable {R : Correspondence V W} {P : α → β → Prop} {Q : γ → δ → Prop} {p : Program V α}
  {q : Program W β}

lemma pure {a : α} {b : β} (h : P a b) :
    Related R P (pure a : Program V α) (pure b : Program W β) :=
  .done h

lemma refuse (e : Event) (f : Fault) :
    Related R P (Program.refuse e f : Program V α) (Program.refuse e f : Program W β) :=
  .log e (.fail f)

lemma query {m : Method} {x : Request V m} {x' : Request W m} (hx : x.Related R x') :
    Related R (m.Related R) (Program.query x) (Program.query x') :=
  .ask hx fun _ _ h => .done h

lemma ofAnswer {r : Except Fault α} {r' : Except Fault β} (h : SameResult P r r') :
    Related R P (Program.ofAnswer r : Program V α) (Program.ofAnswer r' : Program W β) := by
  cases h with
  | ok h => exact .done h
  | error f => exact .fail f

/-- Programs are related if their parts are. -/
lemma bind {f : α → Program V γ} {g : β → Program W δ} (h : Related R P p q)
    (hfg : ∀ a b, P a b → Related R Q (f a) (g b)) : Related R Q (p >>= f) (q >>= g) := by
  change Related R Q (p.bind f) (q.bind g)
  induction h with
  | done h => exact hfg _ _ h
  | fail f => exact .fail f
  | log e h ih => exact .log e ih
  | ask hx hk ih => exact .ask hx ih

/-- A request whose answer is a fault or a value, and the value of the answer. -/
lemma queryOk {m : Method} {x : Request V m} {x' : Request W m} (hx : x.Related R x')
    {g : m.Answer V → Except Fault α} {g' : m.Answer W → Except Fault β}
    (h : ∀ a a', m.Related R a a' → SameResult P (g a) (g' a')) :
    Related R P (Program.query x >>= fun a => Program.ofAnswer (g a))
      (Program.query x' >>= fun a => Program.ofAnswer (g' a)) :=
  (query hx).bind fun a a' ha => ofAnswer (h a a' ha)

end Related

end Program

/-! ## Two runs -/

/-- Wherever the requests in two traces correspond, their answers do. -/
def Correspondence.Holds (R : Correspondence V W) (t : List (Entry V)) (t' : List (Entry W)) :
    Prop :=
  ∀ ⦃m : Method⦄ ⦃x : Request V m⦄ ⦃x' : Request W m⦄ ⦃a : m.Answer V⦄ ⦃a' : m.Answer W⦄,
    .asked x a ∈ t → .asked x' a' ∈ t' → x.Related R x' → m.Related R a a'

/-- Two outcomes that come to the same, after the same calls. -/
structure Outcome.Alike (P : α → β → Prop) (o : Outcome V σ α) (o' : Outcome W τ β) : Prop where
  result : SameResult P o.result o'.result
  calls : calls o.trace = calls o'.trace

namespace Program.Related

variable {R : Correspondence V W} {P : α → β → Prop} {p : Program V α} {q : Program W β}

/-- Two courses of related programs come to the same, after the same calls, if the answers to
related requests correspond. -/
theorem courses (h : Related R P p q) {t : List (Entry V)} {t' : List (Entry W)}
    {r : Except Fault α} {r' : Except Fault β} (ht : p.Course t r) (ht' : q.Course t' r')
    (hanswers : R.Holds t t') : SameResult P r r' ∧ calls t = calls t' := by
  induction h generalizing t t' with
  | done h =>
    obtain ⟨rfl, rfl⟩ := ht
    obtain ⟨rfl, rfl⟩ := ht'
    exact ⟨.ok h, rfl⟩
  | fail f =>
    obtain ⟨rfl, rfl⟩ := ht
    obtain ⟨rfl, rfl⟩ := ht'
    exact ⟨.error f, rfl⟩
  | log e h ih => exact ih ht ht' hanswers
  | ask hx hk ih =>
    obtain ⟨a, u, rfl, hu⟩ := ht
    obtain ⟨a', u', rfl, hu'⟩ := ht'
    have hfirst := hanswers List.mem_cons_self List.mem_cons_self hx
    obtain ⟨hresult, hcalls⟩ := ih a a' hfirst hu hu' fun _ _ _ _ _ ha ha' =>
      hanswers (List.mem_cons_of_mem _ ha) (List.mem_cons_of_mem _ ha')
    refine ⟨hresult, ?_⟩
    rw [calls_cons_asked, calls_cons_asked, hx.argument?_eq, hcalls]

/-- So do two runs. -/
lemma alike (h : Related R P p q) {B : Backend V σ} {C : Backend W τ} {s : σ} {t : τ}
    (hanswers : R.Holds (p.run B s).trace (q.run C t).trace) :
    (p.run B s).Alike P (q.run C t) := by
  obtain ⟨hresult, hcalls⟩ := h.courses (course_run B p s) (course_run C q t)
    fun _ _ _ _ _ ha ha' => hanswers (mem_requests.1 ha) (mem_requests.1 ha')
  rw [calls_requests, calls_requests] at hcalls
  exact ⟨hresult, hcalls⟩

end Program.Related

/-! ## Right answers -/

/-- The answer in the entry of a trace is right in the eyes of `A`. -/
def Entry.Fits (A : (m : Method) → Request V m → m.Answer V → Prop) : Entry V → Prop
  | asked x a => A _ x a
  | event _ => True

@[simp] lemma Entry.fits_asked {A : (m : Method) → Request V m → m.Answer V → Prop} {m : Method}
    {x : Request V m} {a : m.Answer V} : (asked x a).Fits A ↔ A m x a := Iff.rfl

namespace Program

/-- The program can come to `r` by answers that are right in the eyes of `A`. -/
def Reaches (A : (m : Method) → Request V m → m.Answer V → Prop) (p : Program V α)
    (r : Except Fault α) : Prop :=
  ∃ t, p.Course t r ∧ ∀ e ∈ t, e.Fits A

variable {A : (m : Method) → Request V m → m.Answer V → Prop} {p : Program V α} {r : Except Fault α}

lemma reaches_pure {a : α} : (pure a : Program V α).Reaches A r ↔ r = .ok a := by
  simp [Reaches, and_assoc]

lemma reaches_fail {e : Fault} : (fail e : Program V α).Reaches A r ↔ r = .error e := by
  simp [Reaches, and_assoc]

lemma reaches_ask {m : Method} {x : Request V m} {k : m.Answer V → Program V α} :
    (ask x k).Reaches A r ↔ ∃ a, A m x a ∧ (k a).Reaches A r := by
  constructor
  · rintro ⟨_, ⟨a, u, rfl, hu⟩, hright⟩
    obtain ⟨ha, hright⟩ := List.forall_mem_cons.1 hright
    exact ⟨a, ha, u, hu, hright⟩
  · rintro ⟨a, ha, u, hu, hright⟩
    exact ⟨_, ⟨a, u, rfl, hu⟩, List.forall_mem_cons.2 ⟨ha, hright⟩⟩

end Program

/-- The answers of the backend correspond to right ones, wherever the requests correspond. -/
def Backend.Meets (B : Backend V σ) (R : Correspondence V W)
    (A : (m : Method) → Request W m → m.Answer W → Prop) : Prop :=
  ∀ ⦃m : Method⦄ ⦃x : Request V m⦄ ⦃x' : Request W m⦄ (s : σ), x.Related R x' →
    ∃ a', A m x' a' ∧ m.Related R (B.respond x s).answer a'

namespace Program.Related

variable {R : Correspondence V W} {A : (m : Method) → Request W m → m.Answer W → Prop}
  {P : α → β → Prop} {p : Program V α} {q : Program W β} {B : Backend V σ}

/-- What a program comes to on a backend whose answers correspond to right ones can be reached by
right answers. -/
theorem exists_reaches (h : Related R P p q) (hB : B.Meets R A) (s : σ) :
    ∃ r, q.Reaches A r ∧ SameResult P (p.run B s).result r := by
  induction h generalizing s with
  | done h => exact ⟨_, reaches_pure.2 rfl, .ok h⟩
  | fail f => exact ⟨_, reaches_fail.2 rfl, .error f⟩
  | log e h ih => exact ih s
  | ask hx hk ih =>
    obtain ⟨a', ha', hrelated⟩ := hB s hx
    obtain ⟨r, hr, hresult⟩ := ih _ a' hrelated _
    exact ⟨r, reaches_ask.2 ⟨a', ha', hr⟩, hresult⟩

/-- All requests and answers of such a run have a counterpart. -/
theorem exists_of_asked (h : Related R P p q) (hB : B.Meets R A) {s : σ} {m : Method}
    {x : Request V m} {a : m.Answer V} (ha : .asked x a ∈ (p.run B s).trace) :
    ∃ x' a', x.Related R x' ∧ m.Related R a a' := by
  induction h generalizing s with
  | done h => cases ha
  | fail f => cases ha
  | log e h ih =>
    rcases List.mem_cons.1 ha with ha | ha
    · cases ha
    · exact ih ha
  | ask hx hk ih =>
    obtain ⟨a', -, hrelated⟩ := hB s hx
    simp only [run_ask, Outcome.after, List.cons_append, List.mem_cons, List.mem_append,
      List.mem_map] at ha
    rcases ha with ha | ⟨e, -, ha⟩ | ha
    · cases ha
      exact ⟨_, a', hx, hrelated⟩
    · cases ha
    · exact ih _ a' hrelated ha

end Program.Related

end EcdsaVectors
