/-
What a backend promises.

The values of a backend are its own affair; what matters is for which values of the textbook
they stand: for numbers, domains, key pairs, points and signatures.  A `Meaning` is the
relation between the two, and a backend is `Faithful` to a meaning if all its answers are
right in the eyes of the textbook.  Two answers are left open, since they depend on chance: of
a key pair it is only asked that it is one of the curve, and of a signature that it is made
with some nonce in range.  Making either can also fail.

The backend on integers of any size takes the textbook literally
(`BigInteger.faithful`).
-/
import Mathlib.Data.Option.Basic
import Mathlib.Tactic.Lemma
import EcdsaVectors.Backend.BigInteger
namespace EcdsaVectors

variable {V : Values} {σ : Type}

/-- For what the values of a backend stand. -/
structure Meaning (V : Values) where
  curve : V.Curve → Domain → Prop
  digest : V.Digest → HashName → Prop
  integer : V.Integer → Nat → Prop
  keyPair : V.KeyPair → KeyPair → Prop
  publicKey : V.PublicKey → PublicKey → Prop
  signature : V.Signature → Signature → Prop

/-- A key pair whose public key is made from its scalar. -/
def KeyPair.Proper (p : KeyPair) : Prop := p.key.domain.keyPair? p.scalar = some p

/-- The textbook makes `S` of the message with some nonce in range. -/
def KeyPair.Signs (p : KeyPair) (hash : HashName) (m : Octets) (S : Signature) : Prop :=
  let D := p.key.domain
  ∃ k, 0 < k ∧ k < D.order ∧ D.sign p.scalar (D.digestInteger (hash.digest m)) k = some S

/-- A backend that knows the curves `knows` and answers by the textbook on `domains`. -/
structure Backend.Faithful (B : Backend V σ) (M : Meaning V) (domains : CurveName → Domain)
    (knows : CurveName → Bool) : Prop where
  curve {name : CurveName} (s : σ) (hk : knows name = true) :
    ∃ c, (B.respond (.curve name) s).answer = some c ∧ M.curve c (domains name)
  noCurve {name : CurveName} (s : σ) (hk : knows name = false) :
    (B.respond (.curve name) s).answer = none
  digest (name : HashName) (s : σ) :
    ∃ h, (B.respond (.digest name) s).answer = some h ∧ M.digest h name
  generateKeyPair {c : V.Curve} {D : Domain} (s : σ) (hc : M.curve c D) (pair : V.KeyPair)
    (h : (B.respond (.generateKeyPair c) s).answer = .ok pair) :
    ∃ p : KeyPair, M.keyPair pair p ∧ p.key.domain = D ∧ p.Proper
  privateScalar {pair : V.KeyPair} {p : KeyPair} (s : σ) (hp : M.keyPair pair p) :
    ∃ i, (B.respond (.privateScalar pair) s).answer = .ok i ∧ M.integer i p.scalar
  publicKey {pair : V.KeyPair} {p : KeyPair} (s : σ) (hp : M.keyPair pair p) :
    ∃ k, (B.respond (.publicKey pair) s).answer = .ok k ∧ M.publicKey k p.key
  publicKeyOfCoordinates {c : V.Curve} {D : Domain} {x y : V.Integer} {X Y : Nat} (s : σ)
    (hc : M.curve c D) (hx : M.integer x X) (hy : M.integer y Y) :
    ∃ k?, (B.respond (.publicKeyOfCoordinates c x y) s).answer = .ok k? ∧
      Option.Rel M.publicKey k? (D.publicKey? X Y)
  coordinates {k : V.PublicKey} {Q : PublicKey} (s : σ) (hk : M.publicKey k Q) :
    ∃ x y, (B.respond (.coordinates k) s).answer = .ok (x, y) ∧
      M.integer x Q.coordinates.1 ∧ M.integer y Q.coordinates.2
  integerOfOctets (b : Octets) (s : σ) :
    ∃ i, (B.respond (.integerOfOctets b) s).answer = .ok i ∧ M.integer i b.value
  octetsOfInteger {i : V.Integer} {n : Nat} (s : σ) (hi : M.integer i n) :
    (B.respond (.octetsOfInteger i) s).answer = Octets.ofNat n
  sign {pair : V.KeyPair} {p : KeyPair} {h : V.Digest} {hash : HashName} (m : Octets) (s : σ)
    (hp : M.keyPair pair p) (hh : M.digest h hash) (S : V.Signature)
    (hS : (B.respond (.sign pair h m) s).answer = .ok S) :
    ∃ T, M.signature S T ∧ p.Signs hash m T
  verify {k : V.PublicKey} {Q : PublicKey} {h : V.Digest} {hash : HashName} {S : V.Signature}
    {T : Signature} (m : Octets) (s : σ) (hk : M.publicKey k Q) (hh : M.digest h hash)
    (hS : M.signature S T) :
    (B.respond (.verify k h m S) s).answer = .ok (BigInteger.finding Q hash m T = .valid)
  signatureOfComponents {r s' : V.Integer} {R S : Nat} (s : σ) (hr : M.integer r R)
    (hs : M.integer s' S) :
    ∃ T, (B.respond (.signatureOfComponents r s') s).answer = .ok T ∧ M.signature T ⟨R, S⟩
  components {S : V.Signature} {T : Signature} (s : σ) (hS : M.signature S T) :
    ∃ r s', (B.respond (.components S) s).answer = .ok (r, s') ∧
      M.integer r T.r ∧ M.integer s' T.s

/-! ## Key pairs and signatures -/

namespace Domain

variable {D : Domain} {d e k : Nat} {p : KeyPair} {S : Signature}

lemma keyPair?_eq_some (h : D.keyPair? d = some p) :
    (0 < d ∧ d < D.order) ∧ D.curve.multiple d D.base = .affine p.key.x p.key.y ∧
      p = ⟨d, ⟨D, p.key.x, p.key.y⟩⟩ := by
  unfold keyPair? at h
  by_cases hd : 0 < d ∧ d < D.order
  · rw [if_pos hd] at h
    cases hm : D.curve.multiple d D.base with
    | infinity =>
      rw [hm] at h
      cases h
    | affine x y =>
      rw [hm] at h
      obtain rfl := Option.some.inj h
      exact ⟨hd, rfl, rfl⟩
  · rw [if_neg hd] at h
    cases h

/-- A key pair made from a scalar is one of the domain, and its key is made from its scalar. -/
lemma proper_of_keyPair? (h : D.keyPair? d = some p) : p.key.domain = D ∧ p.Proper := by
  obtain ⟨-, -, hp⟩ := keyPair?_eq_some h
  rw [hp] at h ⊢
  exact ⟨rfl, h⟩

lemma sign_eq_some (h : D.sign d e k = some S) :
    ∃ x y, D.curve.multiple k D.base = .affine x y ∧ S.r = D.abscissa x ∧
      S.s = D.scalarInverse k * (e + S.r * d) % D.order ∧ 0 < S.r ∧ 0 < S.s := by
  unfold sign at h
  cases hR : D.curve.multiple k D.base with
  | infinity =>
    rw [hR] at h
    cases h
  | affine x y =>
    rw [hR] at h
    obtain ⟨hne, hS⟩ := Option.ite_none_left_eq_some.1 h
    obtain ⟨hr, hs⟩ := not_or.1 hne
    obtain rfl := Option.some.inj hS
    exact ⟨x, y, rfl, rfl, rfl, Nat.pos_of_ne_zero hr, Nat.pos_of_ne_zero hs⟩

lemma sign_lt (hn : 0 < D.order) (h : D.sign d e k = some S) :
    S.r < D.order ∧ S.s < D.order := by
  obtain ⟨x, y, -, hr, hs, -⟩ := sign_eq_some h
  rw [hs, hr]
  exact ⟨Nat.mod_lt _ hn, Nat.mod_lt _ hn⟩

end Domain

lemma KeyPair.Proper.scalar_bounds {p : KeyPair} (h : p.Proper) :
    0 < p.scalar ∧ p.scalar < p.key.domain.order :=
  (Domain.keyPair?_eq_some h).1

/-! ## The backend on integers of any size -/

lemma Fault.unless_eq_ok {α : Type} {f : Fault} {o : Option α} {a : α} :
    f.unless o = .ok a ↔ o = some a := by
  cases o <;> simp [Fault.unless]

namespace BigInteger

/-- Every value stands for itself, and a key pair is a proper one. -/
def meaning : Meaning values where
  curve := Eq
  digest := Eq
  integer := Eq
  keyPair := fun pair p => pair = p ∧ p.Proper
  publicKey := Eq
  signature := Eq

/-- A key pair that is made is made from a scalar in range. -/
lemma proper_of_keyPair? {D : Domain} {E : Entropy} {p : KeyPair}
    (h : (keyPair? D E).1 = some p) : p.key.domain = D ∧ p.Proper := by
  obtain ⟨d, -, hd⟩ := Option.bind_eq_some_iff.1 h
  exact Domain.proper_of_keyPair? hd

/-- A signature that is made is made with a nonce in range. -/
lemma signs_of_signature? {p : KeyPair} (hp : p.Proper) {hash : HashName} {m : Octets}
    {E : Entropy} {S : Signature} (h : (signature? p hash m E).1 = some S) :
    p.Signs hash m S := by
  obtain ⟨k, hk, hS⟩ := Option.bind_eq_some_iff.1 h
  obtain ⟨hpos, hlt⟩ := hp.scalar_bounds
  exact ⟨k, Entropy.draw_pos hk, Entropy.draw_lt (by omega) hk, hS⟩

/-- The backend on integers of any size takes the textbook literally, and knows all curves. -/
theorem faithful (domains : CurveName → Domain) :
    (Backend.bigInteger domains).Faithful meaning domains fun _ => true where
  curve := by
    rintro name s -
    exact ⟨_, rfl, rfl⟩
  noCurve := by
    rintro name s hk
    cases hk
  digest name s := ⟨name, rfl, rfl⟩
  generateKeyPair := by
    rintro c D s rfl pair h
    obtain ⟨hD, hp⟩ := proper_of_keyPair? (Fault.unless_eq_ok.1 h)
    exact ⟨pair, ⟨rfl, hp⟩, hD, hp⟩
  privateScalar := by
    rintro pair p s ⟨rfl, -⟩
    exact ⟨pair.scalar, rfl, rfl⟩
  publicKey := by
    rintro pair p s ⟨rfl, -⟩
    exact ⟨pair.key, rfl, rfl⟩
  publicKeyOfCoordinates := by
    rintro c D x y X Y s rfl rfl rfl
    refine ⟨_, rfl, ?_⟩
    cases c.publicKey? x y with
    | none => exact .none
    | some Q => exact .some rfl
  coordinates := by
    rintro k Q s rfl
    exact ⟨_, _, rfl, rfl, rfl⟩
  integerOfOctets b s := ⟨b.value, rfl, rfl⟩
  octetsOfInteger := by
    rintro i n s rfl
    rfl
  sign := by
    rintro pair p h hash m s ⟨rfl, hp⟩ rfl S hS
    exact ⟨S, rfl, signs_of_signature? hp (Fault.unless_eq_ok.1 hS)⟩
  verify := by
    rintro k Q h hash S T m s rfl rfl rfl
    rfl
  signatureOfComponents := by
    rintro r s' R S s rfl rfl
    exact ⟨_, rfl, rfl⟩
  components := by
    rintro S T s rfl
    exact ⟨_, _, rfl, rfl, rfl⟩

end BigInteger

end EcdsaVectors
