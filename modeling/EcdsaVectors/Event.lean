/-
The events that a run reports, and the lines of a log that they make.

An event says what happened; `line` says it in words, with the level of the event in front and
the values that belong to it behind, each after its name.
-/
import EcdsaVectors.Fault
import EcdsaVectors.TestCase
namespace EcdsaVectors

/-- How urgent an event is. -/
inductive Level where
  | error
  | debug
  deriving DecidableEq, Repr

/-- Something that a run reports. -/
inductive Event where
  /-- A test case is taken up. -/
  | caseOpened (group number : UInt32) (mode : Mode) (curve : CurveName)
  /-- A test case cannot be executed. -/
  | caseFailed (fault : Fault)
  | curveUnsupported (name : CurveName)
  | hashMissing
  | hashUnsupported (name : HashName)
  | firstCoordinateEmpty
  | secondCoordinateEmpty
  | scalarEmpty
  /-- The group has a key already. -/
  | groupKeyReused (group : UInt32)
  /-- The key of one group makes room for that of another. -/
  | groupKeyEvicted (old new : UInt32)
  | groupKeyGenerated (group : UInt32)
  | groupKeyReleased (group : UInt32)
  /-- A check has come to its end. -/
  | verdictReached (verdict : Verdict)
  /-- A signature is not checked, for want of a valid key. -/
  | publicKeyInvalid
  /-- A backend refuses a point. -/
  | pointRejected
  /-- A backend refuses a signature without a comparison, since a component does not fit its
  integers. -/
  | componentTooWide
  /-- A backend refuses a signature without a comparison, since a component is not below the
  order, or is zero. -/
  | componentOutOfRange
  /-- A backend refuses a signature after the comparison. -/
  | signatureRejected
  /-- A backend fails and has nothing to say about it. -/
  | backendFailed
  deriving DecidableEq, Repr

/-- The level as a word of the log. -/
def Level.text : Level → String
  | error => "ERROR"
  | debug => "DEBUG"

namespace Event

/-- How urgent an event is. -/
def level : Event → Level
  | caseFailed _ | curveUnsupported _ | hashMissing | hashUnsupported _ | firstCoordinateEmpty
  | secondCoordinateEmpty | scalarEmpty | backendFailed => .error
  | _ => .debug

/-- A value after its name. -/
def field (name value : String) : String := name ++ "=" ++ value

/-- The words of an event, and the values that belong to it. -/
def words : Event → List String
  | caseOpened g n m c =>
    [ "span ecdsa", field "tg_id" (toString g), field "tc_id" (toString n), field "mode" m.text,
      field "curve" c.text ]
  | caseFailed f =>
    ["test case failed", field "error" f.message, field "kind" f.kind.identifier]
  | curveUnsupported c => ["unsupported curve", field "curve" c.text]
  | hashMissing => ["test case has no hash algorithm"]
  | hashUnsupported h => ["unsupported hash algorithm", field "hash_alg" h.text]
  | firstCoordinateEmpty => ["public point has no x coordinate"]
  | secondCoordinateEmpty => ["public point has no y coordinate"]
  | scalarEmpty => ["scalar is empty"]
  | groupKeyReused g => ["reusing group key", field "tg_id" (toString g)]
  | groupKeyEvicted g g' =>
    ["evicting group key", field "evicted" (toString g), field "tg_id" (toString g')]
  | groupKeyGenerated g => ["generated group key", field "tg_id" (toString g)]
  | groupKeyReleased g => ["released group key", field "tg_id" (toString g)]
  | verdictReached v => [field "disposition" v.text]
  | publicKeyInvalid => ["public key invalid"]
  | pointRejected => ["public point rejected"]
  | componentTooWide => ["signature component wider than the field"]
  | componentOutOfRange => ["signature component out of range"]
  | signatureRejected => ["signature rejected"]
  | backendFailed => []

/-- The line of the log. -/
def line (e : Event) : String :=
  " ".intercalate (e.level.text :: e.words)

end Event

end EcdsaVectors
