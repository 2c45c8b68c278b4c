/-
Numbers without zeros in front.

On the backend on strings of octets a number is a string without zeros in front, and whether it
fits the field is told from its length.  This is a test of the number only if there are no
zeros in front, so all strings must be of this kind that go to the backend as numbers or come
from it.  They are either made by the backend or read from the case, and what is read is handed
on as it is.

* `FixedWidth.trimmed`: numbers without zeros in front, as a correspondence of all values to
  themselves.  The answers of the backend keep to it (`FixedWidth.meets_trimmed`), and so do all
  values of a run;
* `FixedWidth.coordinates_of_run`, `FixedWidth.components_of_run`: what is looked at in a check
  are the numbers in the case;
* `FixedWidth.run_trimmed`: so all numbers of a run are without zeros in front, and none is
  refused as too wide but for its value.
-/
import EcdsaVectors.Proofs.Backend.FixedWidth
import EcdsaVectors.Proofs.Codec.Related
import EcdsaVectors.Proofs.Octets.Buffer
import EcdsaVectors.Proofs.Run.Course
import EcdsaVectors.Proofs.Run.Verdict
namespace EcdsaVectors

open Program

variable {κ : Type}

namespace FixedWidth

/-! ## The numbers of a run -/

/-- The numbers that go to the backend with a request. -/
def handed : {m : Method} → Request values m → List Octets
  | _, .publicKeyOfCoordinates _ x y => [x, y]
  | _, .octetsOfInteger i => [i]
  | _, .verify _ _ _ S => [S.r, S.s]
  | _, .signatureOfComponents r s => [r, s]
  | _, .components S => [S.r, S.s]
  | _, _ => []

/-- The numbers that come from the backend with an answer. -/
def produced : (m : Method) → m.Answer values → List Octets
  | .privateScalar, .ok i => [i]
  | .coordinates, .ok (x, y) => [x, y]
  | .integerOfOctets, .ok i => [i]
  | .sign, .ok S => [S.r, S.s]
  | .signatureOfComponents, .ok S => [S.r, S.s]
  | .components, .ok (r, s) => [r, s]
  | _, _ => []

/-- The numbers in an entry of a trace. -/
def numbers : Entry values → List Octets
  | @Entry.asked _ m q a => handed q ++ produced m a
  | .event _ => []

/-- The two components have no zeros in front. -/
def Signature.Trimmed (S : Signature) : Prop := S.r.Trimmed ∧ S.s.Trimmed

/-- Values correspond to themselves, if they are numbers only without zeros in front. -/
def trimmed : Correspondence values values where
  curve := Eq
  digest := Eq
  integer i j := i = j ∧ i.Trimmed
  keyPair := Eq
  publicKey := Eq
  signature S T := S = T ∧ S.Trimmed

variable {domains : CurveName → Domain} {c : TestCase}

lemma forall_mem_pair {P : Octets → Prop} {a b : Octets} (ha : P a) (hb : P b) :
    ∀ i ∈ [a, b], P i := by
  simp [ha, hb]

lemma trimmed_of_related {m : Method} {x x' : Request values m} (h : x.Related trimmed x') :
    ∀ i ∈ handed x, i.Trimmed := by
  cases h with
  | publicKeyOfCoordinates hc hx hy => exact forall_mem_pair hx.2 hy.2
  | octetsOfInteger hi => simpa [handed] using hi.2
  | verify hk hh m hS => exact forall_mem_pair hS.2.1 hS.2.2
  | signatureOfComponents hr hs => exact forall_mem_pair hr.2 hs.2
  | components hS => exact forall_mem_pair hS.2.1 hS.2.2
  | _ => exact List.forall_mem_nil _

lemma trimmed_of_answer {m : Method} {a a' : m.Answer values} (h : m.Related trimmed a a') :
    ∀ i ∈ produced m a, i.Trimmed := by
  cases m with
  | privateScalar | integerOfOctets =>
    cases h with
    | ok hi => simpa [produced] using hi.2
    | error f => exact List.forall_mem_nil _
  | coordinates | components =>
    cases h with
    | ok hp => exact forall_mem_pair hp.1.2 hp.2.2
    | error f => exact List.forall_mem_nil _
  | sign | signatureOfComponents =>
    cases h with
    | ok hS => exact forall_mem_pair hS.2.1 hS.2.2
    | error f => exact List.forall_mem_nil _
  | _ => exact List.forall_mem_nil _

/-! ## The backend -/

lemma trimmed_exported (w n : Nat) : (exported w n).Trimmed := Octets.trimmed_trim _

lemma domain_of_curve? {name : CurveName} {C : Curve} (h : curve? domains name = some C) :
    C.domain = domains name := by
  cases name with
  | p256 | p384 =>
    obtain rfl := Option.some.inj h
    rfl
  | _ => cases h

lemma domain_of_publicKey? {C : Curve} {x y : Octets} {Q : PublicKey}
    (h : publicKey? C x y = some Q) : Q.domain = C.domain := by
  obtain ⟨⟨X, Y⟩, -, hQ⟩ := Option.bind_eq_some_iff.1 h
  exact (Domain.coordinates_of_publicKey? hQ).1

/-- A signature that is made is written without zeros in front, whatever the key. -/
lemma trimmed_of_signature? {P : KeyPair} {hash : HashName} {m : Octets} {S : Signature}
    (h : signature? P hash m = some S) : S.Trimmed := by
  obtain ⟨k, -, h⟩ := Option.bind_eq_some_iff.1 h
  obtain ⟨T, -, h⟩ := Option.bind_eq_some_iff.1 h
  obtain rfl := Option.some.inj h
  exact ⟨trimmed_exported _ _, trimmed_exported _ _⟩

/-- **The backend keeps to numbers without zeros in front**, in any state and with any keys. -/
lemma meets_trimmed (domains : CurveName → Domain) :
    (Backend.fixedWidth domains).Meets trimmed fun _ _ _ => True := by
  intro m x x' E h
  refine ⟨((Backend.fixedWidth domains).respond x E).answer, trivial, ?_⟩
  have hrel {α : Type} (o : Option α) : Option.Rel Eq o o := by
    cases o with
    | none => exact .none
    | some a => exact .some rfl
  cases h with
  | curve name => exact hrel _
  | digest name => exact .some rfl
  | generateKeyPair hc => exact .refl fun _ _ => rfl
  | privateScalar hp => exact .ok ⟨rfl, trimmed_exported _ _⟩
  | publicKey hp => exact .ok rfl
  | publicKeyOfCoordinates hc hx hy => exact .ok (hrel _)
  | coordinates hk => exact .ok ⟨⟨rfl, trimmed_exported _ _⟩, rfl, trimmed_exported _ _⟩
  | integerOfOctets b => exact .ok ⟨rfl, Octets.trimmed_trim b⟩
  | octetsOfInteger hi => rfl
  | sign hp hh m =>
    exact .refl fun S hS => ⟨rfl, trimmed_of_signature? (Fault.unless_eq_ok.1 hS)⟩
  | verify hk hh m hS => exact .ok rfl
  | signatureOfComponents hr hs => exact .ok ⟨rfl, hr.2, hs.2⟩
  | components hS => exact .ok ⟨⟨rfl, hS.2.1⟩, rfl, hS.2.2⟩

/-! ## Runs -/

/-- Whatever the keys are, the programs of a run go with values that correspond to themselves. -/
lemma related_of_holds {task : Task values} {m : Method} {x : Request values m}
    {a : m.Answer values} (h : task.Holds (.fixedWidth domains) (.asked x a)) :
    ∃ x' a', x.Related trimmed x' ∧ m.Related trimmed a a' := by
  have hB := meets_trimmed domains
  cases h with
  | keyGen h => exact (related_makeKey rfl).exists_of_asked hB h
  | keyVer h => exact (related_checkKey rfl _ _).exists_of_asked hB h
  | generate h => exact (GroupKey.related_generate _ rfl).exists_of_asked hB h
  | sign h => exact (related_makeSignature ⟨rfl, rfl, rfl, rfl⟩ rfl _).exists_of_asked hB h
  | sigVer h => exact (related_checkSignature rfl rfl _ _ _ _ _).exists_of_asked hB h

lemma trimmed_of_run {K : KeyStore values κ} {s : Session κ Entropy} {e : Entry values}
    (h : e ∈ (c.run K (.fixedWidth domains) s).trace) : ∀ i ∈ numbers e, i.Trimmed := by
  cases e with
  | event e => exact List.forall_mem_nil _
  | asked x a =>
    obtain ⟨x', a', hx, ha⟩ : ∃ x' a', x.Related trimmed x' ∧ Method.Related trimmed _ a a' := by
      rcases TestCase.holds_of_run h with hnames | ⟨task, -, hholds⟩
      · exact c.related_task.exists_of_asked (meets_trimmed domains) hnames
      · exact related_of_holds hholds
    intro i hi
    exact (List.mem_append.1 hi).elim (trimmed_of_related hx i) (trimmed_of_answer ha i)

variable {K : KeyStore values κ} {s : Session κ Entropy} {p : Program values Output}
  {E : Entropy}

/-- A number that is read has the octets of the case without the zeros in front. -/
lemma eq_trim_of_asked {b i : Octets}
    (h : .asked (.integerOfOctets b) (.ok i) ∈ (p.run (.fixedWidth domains) E).trace) :
    i = b.trim := by
  obtain ⟨E', hE'⟩ := exists_respond_of_asked h
  exact (Except.ok.inj hE').symm

lemma domain_of_lookUp {C : Curve} {t : List (Entry values)}
    (ht : requests (s.run (.fixedWidth domains) c.task).trace = t)
    (hC : .asked (.curve c.curve) (some C) ∈ t) : C.domain = domains c.curve := by
  obtain ⟨E, hE⟩ := TestCase.exists_respond_of_task ht hC
  exact domain_of_curve? hE

lemma keyVer_of_task {C : Curve} {qx qy : Octets}
    (h : (s.run (.fixedWidth domains) c.task).result = .ok (.keyVer C qx qy)) :
    C.domain = domains c.curve ∧ qx = c.qx ∧ qy = c.qy := by
  have hnames := TestCase.resolved_of_result h
  generalize ht : requests (s.run (.fixedWidth domains) c.task).trace = t at hnames
  cases hnames with
  | keyVer hm C => exact ⟨domain_of_lookUp ht List.mem_cons_self, rfl, rfl⟩

lemma sigVer_of_task {C : Curve} {hash : HashName} {m qx qy r s' : Octets}
    (h : (s.run (.fixedWidth domains) c.task).result = .ok (.sigVer C hash m qx qy r s')) :
    C.domain = domains c.curve ∧ (qx = c.qx ∧ qy = c.qy) ∧ r = c.r ∧ s' = c.s := by
  have hnames := TestCase.resolved_of_result h
  generalize ht : requests (s.run (.fixedWidth domains) c.task).trace = t at hnames
  cases hnames with
  | sigVer hm hh C hash =>
    exact ⟨domain_of_lookUp ht List.mem_cons_self, ⟨rfl, rfl⟩, rfl, rfl⟩

/-- Only a check looks for a point or verifies a signature, and it does so with the fields of the
case, on its curve. -/
lemma check_of_run {x : Method} {q : Request values x} {a : x.Answer values}
    (hx : x ∈ [.publicKeyOfCoordinates, .verify])
    (h : .asked q a ∈ (c.run K (.fixedWidth domains) s).trace) :
    ∃ C : Curve, C.domain = domains c.curve ∧ ∃ E : Entropy,
      (.asked q a ∈ ((checkKey C c.qx c.qy).run (.fixedWidth domains) E).trace ∨
        ∃ hash m, .asked q a ∈
          ((checkSignature C hash m c.qx c.qy c.r c.s).run (.fixedWidth domains) E).trace) := by
  have hnot {α : Type} {p : Program values α} {l : List Method} {E : Entropy} (hp : p.CallsOnly l)
      (hl : .publicKeyOfCoordinates ∉ l ∧ .verify ∉ l) :
      .asked q a ∉ (p.run (.fixedWidth domains) E).trace := by
    intro hmem
    have hcalled := hp.mem_of_asked hmem
    simp only [List.mem_cons, List.not_mem_nil, or_false] at hx
    rcases hx with rfl | rfl
    · exact hl.1 hcalled
    · exact hl.2 hcalled
  rcases TestCase.holds_of_run h with hnames | ⟨task, htask, hholds⟩
  · exact absurd hnames (hnot (TestCase.callsOnly_task c) (by simp))
  cases hholds with
  | keyGen h => exact absurd h (hnot (keeps_makeKey _).ends.callsOnly (by simp))
  | generate h => exact absurd h (hnot (GroupKey.follows_generate _ _).callsOnly (by simp))
  | sign h => exact absurd h (hnot (follows_makeSignature _ _ _).callsOnly (by simp))
  | keyVer h =>
    obtain ⟨hC, rfl, rfl⟩ := keyVer_of_task htask
    exact ⟨_, hC, _, .inl h⟩
  | sigVer h =>
    obtain ⟨hC, ⟨rfl, rfl⟩, rfl, rfl⟩ := sigVer_of_task htask
    exact ⟨_, hC, _, .inr ⟨_, _, h⟩⟩

/-- The point that is looked for in a run is the one in the case. -/
lemma coordinates_of_run {C : Curve} {x y : Octets} {a : Except Fault (Option PublicKey)}
    (h : .asked (.publicKeyOfCoordinates C x y) a ∈ (c.run K (.fixedWidth domains) s).trace) :
    C.domain = domains c.curve ∧ x = c.qx.trim ∧ y = c.qy.trim := by
  obtain ⟨C', hC, E, hcheck | ⟨hash, m, hcheck⟩⟩ := check_of_run (by simp) h
  · obtain ⟨rfl, hx, hy⟩ := asked_of_course_checkKey (course_run _ _ _) (mem_requests.2 hcheck)
    exact ⟨hC, eq_trim_of_asked (mem_requests.1 hx), eq_trim_of_asked (mem_requests.1 hy)⟩
  · obtain ⟨rfl, hx, hy⟩ :=
      asked_of_course_checkSignature (course_run _ _ _) (mem_requests.2 hcheck)
    exact ⟨hC, eq_trim_of_asked (mem_requests.1 hx), eq_trim_of_asked (mem_requests.1 hy)⟩

/-- The signature that is verified in a run is the one in the case, with a key of its curve. -/
lemma components_of_run {Q : PublicKey} {hash : HashName} {m : Octets} {S : Signature}
    {a : Except Fault Bool}
    (h : .asked (.verify Q hash m S) a ∈ (c.run K (.fixedWidth domains) s).trace) :
    Q.domain = domains c.curve ∧ S = ⟨c.r.trim, c.s.trim⟩ := by
  obtain ⟨C, hC, E, hcheck | ⟨hash', m', hcheck⟩⟩ := check_of_run (by simp) h
  · simpa using (callsOnly_checkKey _ _ _).mem_of_asked hcheck
  · obtain ⟨⟨i, j, hr, hs, hS⟩, x, y, hQ⟩ :=
      asked_of_course_verify (course_run _ _ _) (mem_requests.2 hcheck)
    obtain ⟨E', hE'⟩ := exists_respond_of_asked (mem_requests.1 hQ)
    obtain ⟨E'', hE''⟩ := exists_respond_of_asked (mem_requests.1 hS)
    rw [← eq_trim_of_asked (mem_requests.1 hr), ← eq_trim_of_asked (mem_requests.1 hs)]
    exact ⟨(domain_of_publicKey? (Except.ok.inj hE')).trans hC, (Except.ok.inj hE'').symm⟩

lemma coordinates?_trim (C : Curve) (qx qy : Octets) :
    coordinates? C qx.trim qy.trim =
      if qx.value < 256 ^ C.domain.fieldLength ∧ qy.value < 256 ^ C.domain.fieldLength
      then some (qx.value, qy.value) else none := by
  rw [← Octets.ofNat_value, ← Octets.ofNat_value, coordinates?_ofNat]

lemma finding?_trim (Q : PublicKey) (hash : HashName) (m r s : Octets) :
    finding? Q hash m ⟨r.trim, s.trim⟩ =
      if r.value < 256 ^ Q.domain.fieldLength ∧ s.value < 256 ^ Q.domain.fieldLength
      then some (Q.domain.verify Q.point
        (Octets.value (prehash Q.domain.fieldLength (hash.digest m))) ⟨r.value, s.value⟩)
      else none := by
  rw [← Octets.ofNat_value r, ← Octets.ofNat_value s, finding?_ofNat]

/-- **All numbers of a run are without zeros in front, and so none is refused but for its
value.**  In the run of any case, with any store of keys in any state, no number goes to the
backend or comes from it with zeros in front.  Such a string is widened to the octets of a
field within the bounds of the buffer, and just when its number fits.  So the coordinates that
are looked at and the components that are verified are the numbers in the case, however many
zeros stand in front of them there, unless one of them is too large for the octets of the
field. -/
theorem run_trimmed (domains : CurveName → Domain) (K : KeyStore values κ) (c : TestCase)
    (s : Session κ Entropy) :
    let w := (domains c.curve).fieldLength
    let trace := (c.run K (.fixedWidth domains) s).trace
    (∀ e ∈ trace, ∀ i ∈ numbers e, i.Trimmed) ∧
    (∀ (n : Nat) (b : Octets), b.Trimmed → b.Widens n) ∧
    (∀ C x y a, .asked (.publicKeyOfCoordinates C x y) a ∈ trace →
      coordinates? C x y =
        if c.qx.value < 256 ^ w ∧ c.qy.value < 256 ^ w then some (c.qx.value, c.qy.value)
        else none) ∧
    ∀ Q hash m S a, .asked (.verify Q hash m S) a ∈ trace →
      finding? Q hash m S =
        if c.r.value < 256 ^ w ∧ c.s.value < 256 ^ w then
          some (Q.domain.verify Q.point (Octets.value (prehash w (hash.digest m)))
            ⟨c.r.value, c.s.value⟩)
        else none := by
  refine ⟨fun e he => trimmed_of_run he, fun n b hb => hb.widens n, ?_, ?_⟩
  · intro C x y a ha
    obtain ⟨hC, rfl, rfl⟩ := coordinates_of_run ha
    rw [coordinates?_trim, hC]
  · intro Q hash m S a ha
    obtain ⟨hQ, rfl⟩ := components_of_run ha
    rw [finding?_trim, hQ]

end FixedWidth

namespace Padded

/-- The check of a valid signature, with zeros in front of its numbers: there are more octets
than the field has. -/
def case : TestCase :=
  { Passing.case with
    qx := 0 :: Passing.case.qx
    r := 0 :: 0 :: Passing.case.r
    s := 0 :: Passing.case.s }

/-- The run of the case. -/
def report : Report FixedWidth.values (Slot FixedWidth.values) Entropy :=
  case.run (.slot _) (.fixedWidth .standard) (.fresh { numbers := id })

end Padded

/-- The zeros that stand in front of the numbers do not make them too wide: coordinates and
components are looked at as if they were not there. -/
theorem run_trimmed_of_padded :
    (Domain.standard Padded.case.curve).fieldLength < Padded.case.r.length ∧
    (∃ C x y a, .asked (.publicKeyOfCoordinates C x y) a ∈ Padded.report.trace ∧
      (x.Trimmed ∧ y.Trimmed) ∧ (Octets.Widens 32 x ∧ Octets.Widens 32 y) ∧
      FixedWidth.coordinates? C x y = some (Passing.case.qx.value, Passing.case.qy.value)) ∧
    ∃ Q hash m S a, .asked (.verify Q hash m S) a ∈ Padded.report.trace ∧
      S.Trimmed ∧ (Octets.Widens 32 S.r ∧ Octets.Widens 32 S.s) ∧
      FixedWidth.finding? Q hash m S =
        some (Q.domain.verify Q.point (Octets.value (FixedWidth.prehash 32 (hash.digest m)))
          ⟨Passing.case.r.value, Passing.case.s.value⟩) := by
  obtain ⟨htrimmed, hwidens, hcoordinates, hfinding⟩ :=
    FixedWidth.run_trimmed .standard (.slot FixedWidth.values) Padded.case
      (.fresh { numbers := id })
  have hasked : .publicKeyOfCoordinates ∈ methods Padded.report.trace ∧
      .verify ∈ methods Padded.report.trace := by
    decide +kernel
  refine ⟨by decide +kernel, ?_, ?_⟩
  · obtain ⟨q, a, ha⟩ := exists_of_mem_methods hasked.1
    cases q with
    | publicKeyOfCoordinates C x y =>
      have hx : x.Trimmed := htrimmed _ ha x (by simp [FixedWidth.numbers, FixedWidth.handed])
      have hy : y.Trimmed := htrimmed _ ha y (by simp [FixedWidth.numbers, FixedWidth.handed])
      refine ⟨C, x, y, a, ha, ⟨hx, hy⟩, ⟨hwidens 32 x hx, hwidens 32 y hy⟩, ?_⟩
      rw [hcoordinates C x y a ha, if_pos (by decide +kernel)]
      decide +kernel
  · obtain ⟨q, a, ha⟩ := exists_of_mem_methods hasked.2
    cases q with
    | verify Q hash m S =>
      have hr : S.r.Trimmed := htrimmed _ ha S.r (by simp [FixedWidth.numbers, FixedWidth.handed])
      have hs : S.s.Trimmed := htrimmed _ ha S.s (by simp [FixedWidth.numbers, FixedWidth.handed])
      refine ⟨Q, hash, m, S, a, ha, ⟨hr, hs⟩, ⟨hwidens 32 S.r hr, hwidens 32 S.s hs⟩, ?_⟩
      rw [hfinding Q hash m S a ha, if_pos (by decide +kernel)]
      rfl

end EcdsaVectors
