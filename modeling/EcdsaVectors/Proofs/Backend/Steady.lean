/-
What a backend can fail in.

A `Steady` backend fails in the making of key pairs and signatures only, and says then that
it is itself to blame.  What it is asked about a value that it has made it can always tell,
whatever the value is; so it makes no difference how the value has come about.  Both backends
are steady (`Library.steady`).
-/
import EcdsaVectors.Proofs.Backend.Library
namespace EcdsaVectors

variable {V : Values} {σ : Type}

/-- A backend that fails in the making of key pairs and signatures only. -/
structure Backend.Steady (B : Backend V σ) : Prop where
  generateKeyPair (c : V.Curve) (s : σ) {f : Fault}
    (h : (B.respond (.generateKeyPair c) s).answer = .error f) : f.kind = .provider
  sign (pair : V.KeyPair) (h : V.Digest) (m : Octets) (s : σ) {f : Fault}
    (hf : (B.respond (.sign pair h m) s).answer = .error f) : f.kind = .provider
  privateScalar (pair : V.KeyPair) (s : σ) :
    ∃ i, (B.respond (.privateScalar pair) s).answer = .ok i
  publicKey (pair : V.KeyPair) (s : σ) : ∃ k, (B.respond (.publicKey pair) s).answer = .ok k
  coordinates (k : V.PublicKey) (s : σ) : ∃ p, (B.respond (.coordinates k) s).answer = .ok p
  components (S : V.Signature) (s : σ) : ∃ p, (B.respond (.components S) s).answer = .ok p

lemma Fault.unless_eq_error {α : Type} {f g : Fault} {o : Option α}
    (h : f.unless o = .error g) : f = g := by
  cases o with
  | none => exact Except.error.inj h
  | some a => cases h

/-- The backend on integers of any size is steady. -/
lemma BigInteger.steady (domains : CurveName → Domain) :
    (Backend.bigInteger domains).Steady where
  generateKeyPair c s f h := by
    obtain rfl := Fault.unless_eq_error h
    rfl
  sign pair h m s f hf := by
    obtain rfl := Fault.unless_eq_error hf
    rfl
  privateScalar pair s := ⟨_, rfl⟩
  publicKey pair s := ⟨_, rfl⟩
  coordinates k s := ⟨_, rfl⟩
  components S s := ⟨_, rfl⟩

/-- The backend on strings of octets is steady. -/
lemma FixedWidth.steady (domains : CurveName → Domain) :
    (Backend.fixedWidth domains).Steady where
  generateKeyPair c s f h := by
    obtain rfl := Fault.unless_eq_error h
    rfl
  sign pair h m s f hf := by
    obtain rfl := Fault.unless_eq_error hf
    rfl
  privateScalar pair s := ⟨_, rfl⟩
  publicKey pair s := ⟨_, rfl⟩
  coordinates k s := ⟨_, rfl⟩
  components S s := ⟨_, rfl⟩

/-- Each backend is steady. -/
lemma Library.steady (L : Library) : L.backend.Steady := by
  cases L with
  | bigInteger => exact BigInteger.steady .standard
  | fixedWidth => exact FixedWidth.steady .standard

end EcdsaVectors
