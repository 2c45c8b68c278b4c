/-
Backends that follow a script.

A script gives out the private scalars of the keys to be made, one for each request, and names
requests that are to go wrong: the first, second, … request of a method.  A request that goes
wrong does nothing at all, so no key is used up by it.  All other requests go to the backend
that is put on stage.
-/
import EcdsaVectors.Backend.BigInteger
namespace EcdsaVectors

/-- What is to happen to a request. -/
inductive Upset where
  /-- The answer is a fault. -/
  | fault (f : Fault)
  /-- The answer is no, from a method that can say so. -/
  | refusal
  deriving DecidableEq, Repr

/-- The answer of a method to an upset request.  Looking up a name can only fail by not finding
it, and writing a number cannot fail. -/
def Method.upset? (V : Values) : (m : Method) → Upset → Option (m.Answer V)
  | .curve, _ => some none
  | .digest, _ => some none
  | .octetsOfInteger, _ => none
  | .publicKeyOfCoordinates, .refusal => some (.ok none)
  | .verify, .refusal => some (.ok false)
  | .generateKeyPair, .fault f => some (.error f)
  | .privateScalar, .fault f => some (.error f)
  | .publicKey, .fault f => some (.error f)
  | .publicKeyOfCoordinates, .fault f => some (.error f)
  | .coordinates, .fault f => some (.error f)
  | .integerOfOctets, .fault f => some (.error f)
  | .sign, .fault f => some (.error f)
  | .verify, .fault f => some (.error f)
  | .signatureOfComponents, .fault f => some (.error f)
  | .components, .fault f => some (.error f)
  | _, .refusal => none

/-- A request that is to go wrong. -/
structure Plan where
  method : Method
  /-- Which request of the method it is, counted from one. -/
  ordinal : Nat
  upset : Upset
  deriving DecidableEq, Repr

/-- The keys that are still to be given out, the requests that go wrong, and the methods asked
so far. -/
structure Script where
  keys : List Octets := []
  plans : List Plan := []
  asked : List Method := []
  deriving DecidableEq, Repr

namespace Script

/-- The script after a request. -/
def note (S : Script) (m : Method) : Script := { S with asked := m :: S.asked }

/-- What is to happen to the request that was noted last.  Of several plans the first counts. -/
def upset? (S : Script) (m : Method) : Option Upset :=
  (S.plans.find? fun p => p.method = m ∧ p.ordinal = S.asked.count m).map (·.upset)

/-- The next key, and the script without it. -/
def takeKey (S : Script) : Option Octets × Script :=
  match S.keys with
  | [] => (none, S)
  | d :: keys => (some d, { S with keys := keys })

end Script

/-- A backend that can be put on stage: it can make the key pair of a given scalar. -/
structure Stage (V : Values) where
  backend : Backend V Entropy
  keyPair? : V.Curve → Nat → Option V.KeyPair
  /-- Whether signatures depend on random numbers. -/
  drawsNonces : Bool

variable {V : Values}

namespace Stage

/-- Makes the key pair of the next scalar of the script. -/
def generate (G : Stage V) (curve : V.Curve) (s : Script × Entropy) :
    Reply (Script × Entropy) (Except Fault V.KeyPair) :=
  let (d, S) := s.1.takeKey
  ⟨Fault.keyGeneration.unless (d.bind fun d => G.keyPair? curve d.value), (S, s.2), []⟩

/-- The answer to a request that does not go wrong. -/
def answer (G : Stage V) :
    {m : Method} → Request V m → Script × Entropy → Reply (Script × Entropy) (m.Answer V)
  | _, .generateKeyPair curve, s => G.generate curve s
  | _, q, s =>
    let r := G.backend.respond q s.2
    ⟨r.answer, (s.1, r.state), r.events⟩

/-- The backend that follows a script. -/
def scripted (G : Stage V) : Backend V (Script × Entropy) where
  respond {m} q s :=
    -- an upset request is noted like any other, and does nothing else
    let S := s.1.note m
    match (S.upset? m).bind (m.upset? V) with
    | some a => ⟨a, (S, s.2), []⟩
    | none => G.answer q (S, s.2)

end Stage

end EcdsaVectors
