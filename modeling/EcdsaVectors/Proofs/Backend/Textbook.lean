/-
The answers of the textbook.

The textbook itself works with numbers, domains and points, which are the values of the backend
on integers of any size.  It does not give one answer to each request: a key pair and a
signature are `Right` if they are what they should be, and any fault is right where one of them
is to be made.  All other answers are determined, and none of them is a fault.

A backend is faithful if its answers correspond to right ones (`Backend.Faithful.meets`).  So
what a program comes to on it can be reached by right answers, and this is no fault unless a
check is not passed (`Textbook.exists_check_of_error`) or a key pair or a signature is to be
made.
-/
import EcdsaVectors.Proofs.Backend.Faithful
import EcdsaVectors.Proofs.Program.Related
import EcdsaVectors.Proofs.Program.Route
namespace EcdsaVectors

open Program

variable {V : Values} {σ α β : Type}

/-- The values that stand for those of the textbook correspond to them. -/
def Meaning.correspondence (M : Meaning V) : Correspondence V BigInteger.values where
  curve := M.curve
  digest := M.digest
  integer := M.integer
  keyPair := M.keyPair
  publicKey := M.publicKey
  signature := M.signature

/-- The answers that are right in the eyes of the textbook, on `domains`, if the curves `knows`
are known. -/
def Textbook.Right (domains : CurveName → Domain) (knows : CurveName → Bool) :
    (m : Method) → Request BigInteger.values m → m.Answer BigInteger.values → Prop
  | _, .curve name, a => a = if knows name then some (domains name) else none
  | _, .digest name, a => a = some name
  | _, .generateKeyPair (D : Domain), a => ∀ p : KeyPair, a = .ok p → p.key.domain = D ∧ p.Proper
  | _, .privateScalar (p : KeyPair), a => a = .ok p.scalar
  | _, .publicKey (p : KeyPair), a => a = .ok p.key
  | _, .publicKeyOfCoordinates (D : Domain) x y, a => a = .ok (D.publicKey? x y)
  | _, .coordinates (Q : PublicKey), a => a = .ok Q.coordinates
  | _, .integerOfOctets b, a => a = .ok b.value
  | _, .octetsOfInteger n, a => a = Octets.ofNat n
  | _, .sign (p : KeyPair) hash m, a => ∀ S, a = .ok S → p.Signs hash m S
  | _, .verify Q hash m S, a => a = .ok (BigInteger.finding Q hash m S = .valid)
  | _, .signatureOfComponents r s, a => a = .ok ⟨r, s⟩
  | _, .components (S : Signature), a => a = .ok (S.r, S.s)

variable {domains : CurveName → Domain} {knows : CurveName → Bool}

namespace Textbook

/-- A right answer is no fault, unless a name is looked up, or a key pair or a signature is to be
made. -/
lemma Right.stop?_ne {m : Method} {x : Request BigInteger.values m}
    {a : m.Answer BigInteger.values} (h : Right domains knows m x a) (f : Fault)
    (hm : m ∉ [.curve, .generateKeyPair, .sign]) : x.stop? a ≠ some (.error f) := by
  cases x with
  | curve name => simp at hm
  | generateKeyPair D => simp at hm
  | sign p hash m => simp at hm
  | publicKeyOfCoordinates D x y =>
    obtain rfl := h
    unfold Request.stop?
    cases D.publicKey? x y <;> simp
  | octetsOfInteger n => simp [Request.stop?]
  | _ =>
    obtain rfl := h
    simp [Request.stop?, Fault.stop?, Fault.unless]

/-- Where the textbook fails, a check on its route is not passed, unless a name is looked up, or
a key pair or a signature is to be made. -/
lemma exists_check_of_error {p : Program BigInteger.values α} {l : List (Station BigInteger.values)}
    {f : Fault} (hp : p.Ends l)
    (hl : ∀ m ∈ [.curve, .generateKeyPair, .sign], m ∉ l.filterMap Station.method?)
    (h : p.Reaches (Right domains knows) (.error f)) : ∃ P, .check P f ∈ l ∧ ¬ P := by
  obtain ⟨t, ht, hright⟩ := h
  have hgoes := hp.goes t _ ht
  have hcut : Cut l t (.error f) := by
    cases hgoes with
    | stopped h => exact h
  rcases hcut.fault_cases with hcheck | ⟨m, x, a, ha, hstop⟩
  · exact hcheck
  · have hm : m ∈ l.filterMap Station.method? := hgoes.isPrefix_methods.subset (mem_methods ha)
    have hfits : Right domains knows m x a := hright _ ha
    exact absurd hstop (hfits.stop?_ne f fun h => hl m h hm)

end Textbook

/-- The answers of a faithful backend correspond to right ones. -/
lemma Backend.Faithful.meets {B : Backend V σ} {M : Meaning V}
    (hB : B.Faithful M domains knows) :
    B.Meets M.correspondence (Textbook.Right domains knows) := by
  intro m x x' s h
  cases h with
  | curve name =>
    cases hk : knows name with
    | false =>
      refine ⟨none, by simp [Textbook.Right, hk], ?_⟩
      rw [hB.noCurve s hk]
      exact .none
    | true =>
      obtain ⟨c, ho, hc⟩ := hB.curve s hk
      refine ⟨some (domains name), by simp [Textbook.Right, hk], ?_⟩
      rw [ho]
      exact .some hc
  | digest name =>
    obtain ⟨h, ho, hh⟩ := hB.digest name s
    exact ⟨_, rfl, ho ▸ .some hh⟩
  | generateKeyPair hc =>
    cases ho : (B.respond (.generateKeyPair _) s).answer with
    | error f => exact ⟨.error f, by rintro p ⟨⟩, .error f⟩
    | ok pair =>
      obtain ⟨p, hp, hright⟩ := hB.generateKeyPair s hc pair ho
      refine ⟨.ok p, ?_, .ok hp⟩
      rintro _ ⟨⟩
      exact hright
  | privateScalar hp =>
    obtain ⟨i, ho, hi⟩ := hB.privateScalar s hp
    exact ⟨_, rfl, ho ▸ .ok hi⟩
  | publicKey hp =>
    obtain ⟨k, ho, hk⟩ := hB.publicKey s hp
    exact ⟨_, rfl, ho ▸ .ok hk⟩
  | publicKeyOfCoordinates hc hx hy =>
    obtain ⟨k?, ho, hk⟩ := hB.publicKeyOfCoordinates s hc hx hy
    exact ⟨_, rfl, ho ▸ .ok hk⟩
  | coordinates hk =>
    obtain ⟨x, y, ho, hx, hy⟩ := hB.coordinates s hk
    exact ⟨_, rfl, ho ▸ .ok ⟨hx, hy⟩⟩
  | integerOfOctets b =>
    obtain ⟨i, ho, hi⟩ := hB.integerOfOctets b s
    exact ⟨_, rfl, ho ▸ .ok hi⟩
  | octetsOfInteger hi => exact ⟨_, rfl, hB.octetsOfInteger s hi⟩
  | sign hp hh m =>
    cases ho : (B.respond (.sign _ _ m) s).answer with
    | error f => exact ⟨.error f, by rintro S ⟨⟩, .error f⟩
    | ok S =>
      obtain ⟨T, hT, hright⟩ := hB.sign m s hp hh S ho
      refine ⟨.ok T, ?_, .ok hT⟩
      rintro _ ⟨⟩
      exact hright
  | verify hk hh m hS => exact ⟨_, rfl, hB.verify m s hk hh hS ▸ .ok rfl⟩
  | signatureOfComponents hr hs =>
    obtain ⟨T, ho, hT⟩ := hB.signatureOfComponents s hr hs
    exact ⟨_, rfl, ho ▸ .ok hT⟩
  | components hS =>
    obtain ⟨r, s', ho, hr, hs⟩ := hB.components s hS
    exact ⟨_, rfl, ho ▸ .ok ⟨hr, hs⟩⟩

end EcdsaVectors
