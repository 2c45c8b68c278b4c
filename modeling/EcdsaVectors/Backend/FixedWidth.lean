/-
The backend on strings of octets of a fixed width.

It knows two curves.  A number is a string of octets without zeros in front; where it is used
it is widened to the width of the field, and what is too long for that is refused before
anything is computed.  Nonces are determined by the key and the digest, under a hash function
that belongs to the curve and not to the case.
-/
import EcdsaVectors.Backend.BigInteger
import EcdsaVectors.Ecdsa.Nonce
namespace EcdsaVectors

namespace FixedWidth

/-- A curve of the backend. -/
structure Curve where
  name : CurveName
  domain : Domain
  /-- The hash function that determines the nonces. -/
  nonceHash : HashName
  deriving DecidableEq

/-- A key pair of the backend. -/
structure KeyPair where
  curve : Curve
  pair : EcdsaVectors.KeyPair
  deriving DecidableEq

/-- Two strings of octets, of any length. -/
structure Signature where
  r : Octets
  s : Octets
  deriving DecidableEq

/-- Numbers are strings of octets. -/
abbrev values : Values where
  Curve := Curve
  Digest := HashName
  Integer := Octets
  KeyPair := KeyPair
  PublicKey := PublicKey
  Signature := Signature

/-- The curves that the backend knows. -/
def curve? (domains : CurveName → Domain) : CurveName → Option Curve
  | .p256 => some ⟨.p256, domains .p256, .sha256⟩
  | .p384 => some ⟨.p384, domains .p384, .sha384⟩
  | _ => none

/-- Writes a number below `256 ^ w`: its octets at the width `w`, without the zeros in front. -/
def exported (w n : Nat) : Octets :=
  (Octets.fixed w n).trim

/-- The digest widened to `w` octets, if it is not longer already. -/
def widened (w : Nat) (h : Octets) : Octets :=
  (Octets.padTo? w h).getD h

/-- The digest as it is signed: widened to `w` octets, or cut to the first `w` if it is longer. -/
def prehash (w : Nat) (h : Octets) : Octets :=
  (widened w h).take w

/-- The key pair of a private scalar. -/
def keyPair? (C : Curve) (d : Nat) : Option KeyPair :=
  (C.domain.keyPair? d).map (⟨C, ·⟩)

/-- A key pair made at random, and the source after it. -/
def randomKeyPair? (C : Curve) (E : Entropy) : Option KeyPair × Entropy :=
  let (d, E) := E.draw C.domain.order
  (d.bind (keyPair? C), E)

/-- Signs a message with the nonce that the key and the digest determine. -/
def signature? (pair : KeyPair) (hash : HashName) (m : Octets) : Option Signature := do
  let D := pair.curve.domain
  let w := D.fieldLength
  let z := prehash w (hash.digest m)
  let k ← deterministicNonce? pair.curve.nonceHash D.order w pair.pair.scalar z
  let S ← D.sign pair.pair.scalar z.value k
  some ⟨exported w S.r, exported w S.s⟩

/-- The numbers of two coordinates, if both fit the field. -/
def coordinates? (C : Curve) (x y : Octets) : Option (Nat × Nat) := do
  let x ← Octets.padTo? C.domain.fieldLength x
  let y ← Octets.padTo? C.domain.fieldLength y
  some (x.value, y.value)

/-- The public key with the given coordinates, if they fit the field and the key is valid. -/
def publicKey? (C : Curve) (x y : Octets) : Option PublicKey :=
  (coordinates? C x y).bind fun (x, y) => C.domain.publicKey? x y

/-- The event that tells of a point that is not valid, if its coordinates fit the field. -/
def pointEvents (C : Curve) (x y : Octets) : List Event :=
  match coordinates? C x y with
  | some (x, y) => Event.pointRejected.unless (C.domain.publicKey? x y)
  | none => []

/-- What the check of a signature finds, if the components fit the field. -/
def finding? (Q : PublicKey) (hash : HashName) (m : Octets) (S : Signature) : Option Finding := do
  let w := Q.domain.fieldLength
  let r ← Octets.padTo? w S.r
  let s ← Octets.padTo? w S.s
  some (Q.domain.verify Q.point (Octets.value (prehash w (hash.digest m))) ⟨r.value, s.value⟩)

/-- The event that tells of a finding. -/
def events : Option Finding → List Event
  | none => [.componentTooWide]
  | some .outOfRange => [.componentOutOfRange]
  | some .atInfinity | some .mismatch => [.signatureRejected]
  | some .valid => []

/-- The coordinates of a public key. -/
def coordinates (Q : PublicKey) : Octets × Octets :=
  let w := Q.domain.fieldLength
  (exported w Q.coordinates.1, exported w Q.coordinates.2)

/-- The answers of the backend. -/
def respond (domains : CurveName → Domain) :
    {m : Method} → Request values m → Entropy → Reply Entropy (m.Answer values)
  | _, .curve name, E => ⟨curve? domains name, E, []⟩
  | _, .digest name, E => ⟨some name, E, []⟩
  | _, .generateKeyPair C, E =>
    let made := randomKeyPair? C E
    ⟨Fault.keyGeneration.unless made.1, made.2, Event.backendFailed.unless made.1⟩
  | _, .privateScalar pair, E =>
    ⟨.ok (exported pair.curve.domain.fieldLength pair.pair.scalar), E, []⟩
  | _, .publicKey pair, E => ⟨.ok pair.pair.key, E, []⟩
  | _, .publicKeyOfCoordinates C x y, E => ⟨.ok (publicKey? C x y), E, pointEvents C x y⟩
  | _, .coordinates Q, E => ⟨.ok (coordinates Q), E, []⟩
  | _, .integerOfOctets b, E => ⟨.ok b.trim, E, []⟩
  | _, .octetsOfInteger b, E => ⟨b, E, []⟩
  | _, .sign pair hash m, E =>
    let made := signature? pair hash m
    ⟨Fault.signing.unless made, E, Event.backendFailed.unless made⟩
  | _, .verify Q hash m S, E =>
    ⟨.ok (finding? Q hash m S = some .valid), E, events (finding? Q hash m S)⟩
  | _, .signatureOfComponents r s, E => ⟨.ok ⟨r, s⟩, E, []⟩
  | _, .components S, E => ⟨.ok (S.r, S.s), E, []⟩

end FixedWidth

/-- The backend on strings of octets of a fixed width, over the domains that the names stand
for. -/
def Backend.fixedWidth (domains : CurveName → Domain) : Backend FixedWidth.values Entropy where
  respond := FixedWidth.respond domains

end EcdsaVectors
