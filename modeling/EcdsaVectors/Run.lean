/-
Running a test case.

A case is first made into a task: the names in it are looked up, and of its other fields only
those are kept that its mode reads.  Performing the task gives an output, which holds all
fields that the mode writes.  The case changes in two places only: the verdict of a check is
reset as soon as the task is known, and the output is recorded when there is one.  So a case
whose names are not known is left as it was, and so is one for which no key or signature could
be made.

* `perform` is the task as a whole, for any store of group keys;
* `TestCase.run` adds the events that open and close a run.
-/
import EcdsaVectors.GroupKey
namespace EcdsaVectors

open Program

/-- What is to be done for a test case, with all that it depends on. -/
inductive Task (V : Values) where
  | keyGen (curve : V.Curve)
  | keyVer (curve : V.Curve) (qx qy : Octets)
  | sigGen (curve : V.Curve) (digest : V.Digest) (group : UInt32) (message : Octets)
  | sigVer (curve : V.Curve) (digest : V.Digest) (message qx qy r s : Octets)

/-- What a task writes into its case. -/
inductive Output where
  | key (d qx qy : Octets)
  | verdict (v : Verdict)
  | signature (r s qx qy : Octets)
  deriving DecidableEq, Repr

variable {V : Values} {κ σ α : Type}

/-! ## The four modes -/

/-- Makes a key pair. -/
def makeKey (curve : V.Curve) : Program V Output := do
  let pair ← query (.generateKeyPair curve) >>= ofAnswer
  let d ← query (.privateScalar pair) >>= ofAnswer
  let key ← query (.publicKey pair) >>= ofAnswer
  let (qx, qy) ← Codec.writePoint key
  let d ← Codec.writeInteger d
  pure (.key d qx qy)

/-- Closes a check. -/
def conclude (valid : Bool) : Program V Output := do
  report (.verdictReached (.ofBool valid))
  pure (.verdict (.ofBool valid))

/-- Checks a public key. -/
def checkKey (curve : V.Curve) (qx qy : Octets) : Program V Output := do
  let key ← Codec.readPoint curve qx qy
  conclude key.isSome

/-- Makes a signature with a group key. -/
def makeSignature (key : GroupKey V) (digest : V.Digest) (message : Octets) : Program V Output := do
  let S ← query (.sign key.pair digest message) >>= ofAnswer
  let (r, s) ← Codec.writeSignature S
  pure (.signature r s key.qx key.qy)

/-- Checks a signature. -/
def checkSignature (curve : V.Curve) (digest : V.Digest) (message qx qy r s : Octets) :
    Program V Output := do
  let S ← Codec.readSignature r s
  match ← Codec.readPoint curve qx qy with
  | none => do
    report .publicKeyInvalid
    pure (.verdict .fail)
  | some key => do
    let valid ← query (.verify key digest message S) >>= ofAnswer
    conclude valid

namespace Task

/-- Whether the task ends in a verdict. -/
def isCheck : Task V → Bool
  | keyVer .. | sigVer .. => true
  | keyGen .. | sigGen .. => false

/-- Performs a task. -/
def perform (K : KeyStore V κ) (B : Backend V σ) (t : Task V) (s : Session κ σ) :
    Outcome V (Session κ σ) Output :=
  match t with
  | keyGen curve => s.run B (makeKey curve)
  | keyVer curve qx qy => s.run B (checkKey curve qx qy)
  | sigGen curve digest group message =>
    (s.fetch K B group curve).andThen fun fetched s =>
      s.run B (makeSignature fetched.key digest message)
  | sigVer curve digest message qx qy r s' =>
    s.run B (checkSignature curve digest message qx qy r s')

end Task

/-! ## Test cases -/

/-- What a run leaves: whether it succeeded, the case after it, what lasts, and the trace. -/
structure Report (V : Values) (κ σ : Type) where
  result : Except Fault Unit
  case : TestCase
  session : Session κ σ
  trace : List (Entry V)

namespace TestCase

/-- The task of a case.  The curve is looked up first, then the hash function if the mode has
one. -/
def task (c : TestCase) : Program V (Task V) := do
  let curve ← Codec.lookUpCurve c.curve
  match c.mode with
  | .keyGen => pure (.keyGen curve)
  | .keyVer => pure (.keyVer curve c.qx c.qy)
  | .sigGen => do
    let digest ← Codec.lookUpHash c.hash
    pure (.sigGen curve digest c.group c.message)
  | .sigVer => do
    let digest ← Codec.lookUpHash c.hash
    pure (.sigVer curve digest c.message c.qx c.qy c.r c.s)

/-- The case with an output written into it. -/
def record (c : TestCase) : Output → TestCase
  | .key d qx qy => { c with d := d, qx := qx, qy := qy }
  | .verdict v => { c with verdict := v }
  | .signature r s qx qy => { c with r := r, s := s, qx := qx, qy := qy }

/-- The case of a task that is begun. -/
def begin (c : TestCase) (t : Task V) : TestCase :=
  if t.isCheck then { c with verdict := .fail } else c

/-- The event that a run begins with. -/
def opening (c : TestCase) : Entry V :=
  .event (.caseOpened c.group c.number c.mode c.curve)

/-- The report of a run that fails, with the event that closes it. -/
def failed (c : TestCase) (f : Fault) (s : Session κ σ) (t : List (Entry V)) : Report V κ σ :=
  ⟨.error f, c, s, c.opening :: t ++ [.event (.caseFailed f)]⟩

/-- Runs a test case with a store of group keys, on a backend. -/
def run (K : KeyStore V κ) (B : Backend V σ) (c : TestCase) (s : Session κ σ) : Report V κ σ :=
  let found := s.run B c.task
  match found.result with
  | .error f => c.failed f found.state found.trace
  | .ok task =>
    -- a check that ends in a fault leaves the verdict that it began with
    let c' := c.begin task
    let done := (task.perform K B found.state).after found.trace
    match done.result with
    | .error f => c'.failed f done.state done.trace
    | .ok output => ⟨.ok (), c'.record output, done.state, c.opening :: done.trace⟩

end TestCase

end EcdsaVectors
