/-
The backend on integers of any size.

It knows all fifteen curves and works with numbers as they are: what it reads has no bound, and
whether a number is in range is asked only when it is used.  Nonces and keys are drawn at
random, so they fail when the source of random numbers does.  A point that is refused is
reported; a signature that is refused is reported only when the comparison cannot be made.
-/
import EcdsaVectors.CurveName
import EcdsaVectors.Digest
import EcdsaVectors.Ecdsa
import EcdsaVectors.Entropy
import EcdsaVectors.Backend
namespace EcdsaVectors

/-- The fault of a backend that can make no key pair. -/
def Fault.keyGeneration : Fault := .providerFailure "key generation failed"

/-- The fault of a backend that can make no signature. -/
def Fault.signing : Fault := .providerFailure "signing failed"

namespace BigInteger

/-- Numbers are numbers, and a curve is its domain. -/
abbrev values : Values where
  Curve := Domain
  Digest := HashName
  Integer := Nat
  KeyPair := KeyPair
  PublicKey := PublicKey
  Signature := Signature

/-- A key pair made at random, and the source after it. -/
def keyPair? (D : Domain) (E : Entropy) : Option KeyPair × Entropy :=
  let (d, E) := E.draw D.order
  (d.bind D.keyPair?, E)

/-- The signature of a message with a nonce drawn at random, and the source after it. -/
def signature? (pair : KeyPair) (hash : HashName) (m : Octets) (E : Entropy) :
    Option Signature × Entropy :=
  let D := pair.key.domain
  let (k, E) := E.draw D.order
  (k.bind (D.sign pair.scalar (D.digestInteger (hash.digest m))), E)

/-- What the check of a signature finds. -/
def finding (Q : PublicKey) (hash : HashName) (m : Octets) (S : Signature) : Finding :=
  Q.domain.verify Q.point (Q.domain.digestInteger (hash.digest m)) S

/-- The event that tells of a finding. -/
def events : Finding → List Event
  | .atInfinity => [.signatureRejected]
  | .valid | .outOfRange | .mismatch => []

/-- The answers of the backend. -/
def respond (domains : CurveName → Domain) :
    {m : Method} → Request values m → Entropy → Reply Entropy (m.Answer values)
  | _, .curve name, E => ⟨some (domains name), E, []⟩
  | _, .digest name, E => ⟨some name, E, []⟩
  | _, .generateKeyPair D, E =>
    let made := keyPair? D E
    ⟨Fault.keyGeneration.unless made.1, made.2, Event.backendFailed.unless made.1⟩
  | _, .privateScalar pair, E => ⟨.ok pair.scalar, E, []⟩
  | _, .publicKey pair, E => ⟨.ok pair.key, E, []⟩
  | _, .publicKeyOfCoordinates D x y, E =>
    ⟨.ok (D.publicKey? x y), E, Event.pointRejected.unless (D.publicKey? x y)⟩
  | _, .coordinates Q, E => ⟨.ok Q.coordinates, E, []⟩
  | _, .integerOfOctets b, E => ⟨.ok b.value, E, []⟩
  | _, .octetsOfInteger n, E => ⟨Octets.ofNat n, E, []⟩
  | _, .sign pair hash m, E =>
    let made := signature? pair hash m E
    ⟨Fault.signing.unless made.1, made.2, Event.backendFailed.unless made.1⟩
  | _, .verify Q hash m S, E => ⟨.ok (finding Q hash m S = .valid), E, events (finding Q hash m S)⟩
  | _, .signatureOfComponents r s, E => ⟨.ok ⟨r, s⟩, E, []⟩
  | _, .components S, E => ⟨.ok (S.r, S.s), E, []⟩

end BigInteger

/-- The backend on integers of any size, over the domains that the names stand for. -/
def Backend.bigInteger (domains : CurveName → Domain) : Backend BigInteger.values Entropy where
  respond := BigInteger.respond domains

end EcdsaVectors
