/-
What a cryptographic backend is asked for, and what it answers.

The program does no arithmetic on curves itself.  All that it needs is a request to a backend,
and a backend is whatever answers requests: it works with values of its own (`Values`), may
keep a state, and may report events.  The type of an answer depends on the method that is
asked, and shows how the method can fail.  A curve or a hash function that is not known is no
fault yet, and neither is a point or a signature that is invalid.
-/
import EcdsaVectors.Event
namespace EcdsaVectors

/-- The types of the values that a backend works with. -/
structure Values where
  /-- A curve that the backend knows. -/
  Curve : Type
  /-- A hash function that the backend knows. -/
  Digest : Type
  /-- A number. -/
  Integer : Type
  /-- A private scalar with its public key. -/
  KeyPair : Type
  /-- A valid public key. -/
  PublicKey : Type
  /-- The two components of a signature, in range or not. -/
  Signature : Type

/-- What a backend can be asked for. -/
inductive Method where
  /-- To look up a curve. -/
  | curve
  /-- To look up a hash function. -/
  | digest
  /-- To make a key pair. -/
  | generateKeyPair
  /-- To give the private scalar of a key pair. -/
  | privateScalar
  /-- To give the public key of a key pair. -/
  | publicKey
  /-- To make a public key from coordinates, if they are those of a valid one. -/
  | publicKeyOfCoordinates
  /-- To give the coordinates of a public key. -/
  | coordinates
  /-- To read a number. -/
  | integerOfOctets
  /-- To write a number. -/
  | octetsOfInteger
  /-- To sign a message. -/
  | sign
  /-- To check the signature of a message. -/
  | verify
  /-- To put a signature together. -/
  | signatureOfComponents
  /-- To take a signature apart. -/
  | components
  deriving DecidableEq, Repr

/-- The method as a word of the record of requests. -/
def Method.text : Method → String
  | curve => "curve"
  | digest => "digest"
  | generateKeyPair => "generate_key_pair"
  | privateScalar => "private_scalar"
  | publicKey => "public_key"
  | publicKeyOfCoordinates => "public_key_from_coordinates"
  | coordinates => "affine_coordinates"
  | integerOfOctets => "integer_from_bytes"
  | octetsOfInteger => "integer_to_bytes"
  | sign => "sign"
  | verify => "verify"
  | signatureOfComponents => "signature_from_components"
  | components => "signature_components"

instance : Named Method where
  all := [.curve, .digest, .generateKeyPair, .privateScalar, .publicKey, .publicKeyOfCoordinates,
    .coordinates, .integerOfOctets, .octetsOfInteger, .sign, .verify, .signatureOfComponents,
    .components]
  identifier := Method.text
  text := Method.text

/-- The type of the answers of a method. -/
abbrev Method.Answer (V : Values) : Method → Type
  | .curve => Option V.Curve
  | .digest => Option V.Digest
  | .generateKeyPair => Except Fault V.KeyPair
  | .privateScalar => Except Fault V.Integer
  | .publicKey => Except Fault V.PublicKey
  | .publicKeyOfCoordinates => Except Fault (Option V.PublicKey)
  | .coordinates => Except Fault (V.Integer × V.Integer)
  | .integerOfOctets => Except Fault V.Integer
  | .octetsOfInteger => Octets
  | .sign => Except Fault V.Signature
  | .verify => Except Fault Bool
  | .signatureOfComponents => Except Fault V.Signature
  | .components => Except Fault (V.Integer × V.Integer)

/-- A request to a backend: a method with its arguments. -/
inductive Request (V : Values) : Method → Type where
  | curve (name : CurveName) : Request V .curve
  | digest (name : HashName) : Request V .digest
  | generateKeyPair (curve : V.Curve) : Request V .generateKeyPair
  | privateScalar (pair : V.KeyPair) : Request V .privateScalar
  | publicKey (pair : V.KeyPair) : Request V .publicKey
  | publicKeyOfCoordinates (curve : V.Curve) (x y : V.Integer) : Request V .publicKeyOfCoordinates
  | coordinates (key : V.PublicKey) : Request V .coordinates
  | integerOfOctets (octets : Octets) : Request V .integerOfOctets
  | octetsOfInteger (integer : V.Integer) : Request V .octetsOfInteger
  | sign (pair : V.KeyPair) (digest : V.Digest) (message : Octets) : Request V .sign
  | verify (key : V.PublicKey) (digest : V.Digest) (message : Octets) (signature : V.Signature) :
      Request V .verify
  | signatureOfComponents (r s : V.Integer) : Request V .signatureOfComponents
  | components (signature : V.Signature) : Request V .components

namespace Request

variable {V : Values}

/-- What the record shows of the arguments: names, and the lengths of messages. -/
def argument? {m : Method} : Request V m → Option String
  | .curve name => some name.text
  | .digest name => some name.text
  | .sign _ _ message => some (toString message.length)
  | .verify _ _ message _ => some (toString message.length)
  | _ => none

/-- The request as a line of the record. -/
def line {m : Method} (q : Request V m) : String :=
  match q.argument? with
  | none => m.text
  | some a => m.text ++ " " ++ a

end Request

/-- What comes back on a request: the answer, the state of the backend after it, and the events
that the backend reports on the way. -/
structure Reply (σ α : Type) where
  answer : α
  state : σ
  events : List Event := []

/-- The answer made from a value, or the fault if there is none. -/
def Fault.unless {α : Type} (f : Fault) : Option α → Except Fault α
  | some a => .ok a
  | none => .error f

/-- The events of a step that gives a value, or none for a reason that is told by one event. -/
def Event.unless {α : Type} (e : Event) : Option α → List Event
  | some _ => []
  | none => [e]

/-- A backend that works with the values `V` and keeps a state in `σ`. -/
structure Backend (V : Values) (σ : Type) where
  respond : {m : Method} → Request V m → σ → Reply σ (m.Answer V)

/-- An entry of the trace of a run: a request with its answer, or an event. -/
inductive Entry (V : Values) where
  | asked {m : Method} (request : Request V m) (answer : m.Answer V)
  | event (e : Event)

namespace Entry

variable {V : Values}

/-- The line of the record of requests, if the entry is a request. -/
def requestLine? : Entry V → Option String
  | asked q _ => some q.line
  | event _ => none

/-- The event, if the entry is one. -/
def event? : Entry V → Option Event
  | asked _ _ => none
  | event e => some e

end Entry

end EcdsaVectors
