/-
The causes for which a test case cannot be executed.

A fault is not a verdict: a key or a signature that is found invalid is a successful run with
the verdict "failed".  The five causes fall into three kinds, as `kind` says.
-/
import EcdsaVectors.CurveName
import EcdsaVectors.HashName
import EcdsaVectors.Text.Quoted
namespace EcdsaVectors

/-- A cause for which a test case cannot be executed. -/
inductive Fault where
  /-- The backend does not know the curve. -/
  | unsupportedCurve (name : CurveName)
  /-- The backend does not know the hash function. -/
  | unsupportedHash (name : HashName)
  /-- A signature case names no hash function. -/
  | missingHash
  /-- A string of octets is absent, or the backend cannot read it. -/
  | invalidEncoding (reason : String)
  /-- The backend failed for a reason that the input does not explain. -/
  | providerFailure (reason : String)
  deriving DecidableEq, Repr

/-- Where the cause of a fault lies. -/
inductive FaultKind where
  /-- In the names of curve and hash function. -/
  | configuration
  /-- In the octets of the case. -/
  | encoding
  /-- In the backend. -/
  | provider
  deriving DecidableEq, Repr

/-- The kind as one word. -/
def FaultKind.identifier : FaultKind → String
  | configuration => "Configuration"
  | encoding => "Encoding"
  | provider => "Provider"

namespace Fault

/-- The kind of a fault. -/
def kind : Fault → FaultKind
  | unsupportedCurve _ | unsupportedHash _ | missingHash => .configuration
  | invalidEncoding _ => .encoding
  | providerFailure _ => .provider

/-- The cause as one word. -/
def identifier : Fault → String
  | unsupportedCurve _ => "UnsupportedCurve"
  | unsupportedHash _ => "UnsupportedHash"
  | missingHash => "MissingHashAlgorithm"
  | invalidEncoding _ => "InvalidEncoding"
  | providerFailure _ => "ProviderFailure"

/-- The fault as a sentence for the reader of a report. -/
def message : Fault → String
  | unsupportedCurve c => "unsupported curve " ++ c.text
  | unsupportedHash h => "unsupported hash algorithm " ++ h.text
  | missingHash => "test case has no hash algorithm"
  | invalidEncoding r => "invalid encoding: " ++ r
  | providerFailure r => "provider failure: " ++ r

/-- What a fault carries: a name as one word, a reason between quotation marks. -/
def detail? : Fault → Option String
  | unsupportedCurve c => some c.identifier
  | unsupportedHash h => some h.identifier
  | missingHash => none
  | invalidEncoding r | providerFailure r => some (Text.quoted r)

/-- The fault as an expression: the cause, and in parentheses what it carries. -/
def expression (f : Fault) : String :=
  match f.detail? with
  | none => f.identifier
  | some d => f.identifier ++ "(" ++ d ++ ")"

end Fault

end EcdsaVectors
