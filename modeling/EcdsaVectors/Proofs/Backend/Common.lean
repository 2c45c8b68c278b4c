/-
Values with a meaning in common.

Two backends that are faithful to meanings of their own work with values that stand for the same
(`Meaning.common`) wherever they have read the same octets.  They answer alike whatever they are
asked about such values (`Backend.Faithful.related_answer`), but for what one of them may not know,
and for what is made by chance: the key pairs and signatures that they make have nothing to do
with each other.
-/
import EcdsaVectors.Proofs.Backend.Faithful
import EcdsaVectors.Proofs.Program.Related
namespace EcdsaVectors

variable {V W : Values} {σ τ : Type}

/-- Values of two kinds that have a meaning in common. -/
def Common {α β γ : Type} (M : α → γ → Prop) (N : β → γ → Prop) (a : α) (b : β) : Prop :=
  ∃ c, M a c ∧ N b c

/-- The values with a meaning in common correspond. -/
def Meaning.common (M : Meaning V) (N : Meaning W) : Correspondence V W where
  curve := Common M.curve N.curve
  digest := Common M.digest N.digest
  integer := Common M.integer N.integer
  keyPair := Common M.keyPair N.keyPair
  publicKey := Common M.publicKey N.publicKey
  signature := Common M.signature N.signature

namespace Backend.Faithful

variable {B : Backend V σ} {C : Backend W τ} {M : Meaning V} {N : Meaning W}
  {domains : CurveName → Domain} {knows knows' : CurveName → Bool}
  (hB : B.Faithful M domains knows) (hC : C.Faithful N domains knows') (s : σ) (t : τ)

include hB hC

/-- A curve that both backends know, or neither. -/
lemma related_curve {name : CurveName} (h : knows name = knows' name) :
    Method.curve.Related (M.common N) (B.respond (.curve name) s).answer
      (C.respond (.curve name) t).answer := by
  cases hk : knows name with
  | false =>
    rw [hB.noCurve s hk, hC.noCurve t (h ▸ hk)]
    exact .none
  | true =>
    obtain ⟨c, ho, hc⟩ := hB.curve s hk
    obtain ⟨c', ho', hc'⟩ := hC.curve t (h ▸ hk)
    rw [ho, ho']
    exact .some ⟨_, hc, hc'⟩

/-- **Two faithful backends answer alike**, unless a curve is looked up, or a key pair or a
signature is to be made. -/
theorem related_answer {m : Method} {x : Request V m} {x' : Request W m}
    (hx : x.Related (M.common N) x') (hm : m ∉ [.curve, .generateKeyPair, .sign]) :
    m.Related (M.common N) (B.respond x s).answer (C.respond x' t).answer := by
  cases hx with
  | curve name => simp at hm
  | generateKeyPair hc => simp at hm
  | sign hp hh m => simp at hm
  | digest name =>
    obtain ⟨h, ho, hh⟩ := hB.digest name s
    obtain ⟨h', ho', hh'⟩ := hC.digest name t
    rw [ho, ho']
    exact .some ⟨_, hh, hh'⟩
  | privateScalar hp =>
    obtain ⟨p, hp, hp'⟩ := hp
    obtain ⟨i, ho, hi⟩ := hB.privateScalar s hp
    obtain ⟨i', ho', hi'⟩ := hC.privateScalar t hp'
    rw [ho, ho']
    exact .ok ⟨_, hi, hi'⟩
  | publicKey hp =>
    obtain ⟨p, hp, hp'⟩ := hp
    obtain ⟨k, ho, hk⟩ := hB.publicKey s hp
    obtain ⟨k', ho', hk'⟩ := hC.publicKey t hp'
    rw [ho, ho']
    exact .ok ⟨_, hk, hk'⟩
  | publicKeyOfCoordinates hc hx hy =>
    obtain ⟨D, hc, hc'⟩ := hc
    obtain ⟨X, hx, hx'⟩ := hx
    obtain ⟨Y, hy, hy'⟩ := hy
    obtain ⟨k?, ho, hk⟩ := hB.publicKeyOfCoordinates s hc hx hy
    obtain ⟨k'?, ho', hk'⟩ := hC.publicKeyOfCoordinates t hc' hx' hy'
    rw [ho, ho']
    -- both find the key of the textbook, or none
    generalize D.publicKey? X Y = Q? at hk hk'
    cases hk with
    | none =>
      cases hk' with
      | none => exact .ok .none
    | some hk =>
      cases hk' with
      | some hk' => exact .ok (.some ⟨_, hk, hk'⟩)
  | coordinates hk =>
    obtain ⟨Q, hk, hk'⟩ := hk
    obtain ⟨x, y, ho, hx, hy⟩ := hB.coordinates s hk
    obtain ⟨x', y', ho', hx', hy'⟩ := hC.coordinates t hk'
    rw [ho, ho']
    exact .ok ⟨⟨_, hx, hx'⟩, _, hy, hy'⟩
  | integerOfOctets b =>
    obtain ⟨i, ho, hi⟩ := hB.integerOfOctets b s
    obtain ⟨i', ho', hi'⟩ := hC.integerOfOctets b t
    rw [ho, ho']
    exact .ok ⟨_, hi, hi'⟩
  | octetsOfInteger hi =>
    obtain ⟨n, hi, hi'⟩ := hi
    exact (hB.octetsOfInteger s hi).trans (hC.octetsOfInteger t hi').symm
  | verify hk hh m hS =>
    obtain ⟨Q, hk, hk'⟩ := hk
    obtain ⟨hash, hh, hh'⟩ := hh
    obtain ⟨T, hS, hS'⟩ := hS
    rw [hB.verify m s hk hh hS, hC.verify m t hk' hh' hS']
    exact .ok rfl
  | signatureOfComponents hr hs =>
    obtain ⟨r, hr, hr'⟩ := hr
    obtain ⟨s', hs, hs'⟩ := hs
    obtain ⟨T, ho, hT⟩ := hB.signatureOfComponents s hr hs
    obtain ⟨T', ho', hT'⟩ := hC.signatureOfComponents t hr' hs'
    rw [ho, ho']
    exact .ok ⟨_, hT, hT'⟩
  | components hS =>
    obtain ⟨T, hS, hS'⟩ := hS
    obtain ⟨r, v, ho, hr, hv⟩ := hB.components s hS
    obtain ⟨r', v', ho', hr', hv'⟩ := hC.components t hS'
    rw [ho, ho']
    exact .ok ⟨⟨_, hr, hr'⟩, _, hv, hv'⟩

end Backend.Faithful

end EcdsaVectors
