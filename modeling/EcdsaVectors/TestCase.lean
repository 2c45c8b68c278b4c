/-
Test cases.

A case holds inputs and outputs side by side.  Its mode decides which octets are read and which
are written: making a key writes the scalar and the point, checking a key reads the point,
making a signature reads the message and writes signature and point, and checking a signature
reads all three.  The two checks write the verdict.
-/
import EcdsaVectors.CurveName
import EcdsaVectors.HashName
import EcdsaVectors.Octets
namespace EcdsaVectors

/-- What a test case asks for. -/
inductive Mode where
  /-- Making a key pair. -/
  | keyGen
  /-- Checking a public key. -/
  | keyVer
  /-- Making a signature. -/
  | sigGen
  /-- Checking a signature. -/
  | sigVer
  deriving DecidableEq, Repr

namespace Mode

/-- The mode as one word. -/
def identifier : Mode → String
  | keyGen => "KeyGen"
  | keyVer => "KeyVer"
  | sigGen => "SigGen"
  | sigVer => "SigVer"

/-- The mode as vector files write it. -/
def text : Mode → String
  | keyGen => "keyGen"
  | keyVer => "keyVer"
  | sigGen => "sigGen"
  | sigVer => "sigVer"

instance : Named Mode where
  all := [keyGen, keyVer, sigGen, sigVer]
  identifier := identifier
  text := text

end Mode

/-- The answer to a check. -/
inductive Verdict where
  | pass
  | fail
  deriving DecidableEq, Repr

namespace Verdict

/-- A case that has not been checked has failed. -/
instance : Inhabited Verdict := ⟨fail⟩

/-- The verdict on a check that came out true or false. -/
def ofBool (valid : Bool) : Verdict := if valid then pass else fail

/-- The verdict as one word. -/
def identifier : Verdict → String
  | pass => "Pass"
  | fail => "Fail"

/-- The verdict as vector files write it. -/
def text : Verdict → String
  | pass => "passed"
  | fail => "failed"

instance : Named Verdict where
  all := [pass, fail]
  identifier := identifier
  text := text

@[simp] theorem ofBool_eq_pass {b : Bool} : ofBool b = pass ↔ b = true := by
  cases b <;> simp [ofBool]

end Verdict

/-- A test case. -/
structure TestCase where
  mode : Mode
  /-- The number of the test group. -/
  group : UInt32
  /-- The number of the case, which serves reports only. -/
  number : UInt32
  curve : CurveName
  hash : Option HashName := none
  message : Octets := []
  /-- The first coordinate of the public point. -/
  qx : Octets := []
  /-- The second coordinate of the public point. -/
  qy : Octets := []
  /-- The private scalar. -/
  d : Octets := []
  /-- The first component of the signature. -/
  r : Octets := []
  /-- The second component of the signature. -/
  s : Octets := []
  verdict : Verdict := default
  deriving DecidableEq, Repr

namespace TestCase

/-- The case with a hash function. -/
def withHash (c : TestCase) (h : HashName) : TestCase := { c with hash := some h }

/-- The case with a message. -/
def withMessage (c : TestCase) (m : Octets) : TestCase := { c with message := m }

/-- The case with a public point. -/
def withPublicPoint (c : TestCase) (qx qy : Octets) : TestCase := { c with qx := qx, qy := qy }

/-- The case with a signature. -/
def withSignature (c : TestCase) (r s : Octets) : TestCase := { c with r := r, s := s }

end TestCase

end EcdsaVectors
