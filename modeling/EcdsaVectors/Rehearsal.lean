/-
Rehearsals: a backend by itself through all four modes.

Two keys are made and the first is checked; then three signatures are made, two for one group
and one for another, and all three are checked.  The report says whether what must hold between
their answers does.
-/
import EcdsaVectors.Backend.BigInteger
import EcdsaVectors.Stream
namespace EcdsaVectors

/-- What a rehearsal shows. -/
structure Rehearsal where
  /-- The two keys are not the same. -/
  keysDiffer : Bool
  /-- No group key is kept after the keys were made. -/
  slotUntouched : Bool
  /-- The point of the first key is the multiple of the base point by its scalar. -/
  pointMatchesScalar : Bool
  /-- The verdict on the first key. -/
  keyVerdict : Verdict
  /-- The signatures of one group have the same point. -/
  groupKeyShared : Bool
  /-- The signature of the other group has another point. -/
  groupKeyReplaced : Bool
  /-- The verdicts on the signatures. -/
  signaturesHold : List Bool
  /-- The group whose key is kept in the end. -/
  keptGroup : Option UInt32

namespace Rehearsal

variable {V : Values}

/-- Computations in one session that end at the first fault. -/
abbrev Act (V : Values) := StateT (Session (Slot V) Entropy) (Except Fault)

/-- Runs a case. -/
def run (B : Backend V Entropy) (c : TestCase) : Act V TestCase := fun s =>
  let report := c.run (.slot V) B s
  report.result.map fun _ => (report.case, report.session)

/-- The point of a case as two numbers. -/
def pointOf (c : TestCase) : Nat × Nat := (c.qx.value, c.qy.value)

/-- Performs a rehearsal. -/
def perform (B : Backend V Entropy) (domains : CurveName → Domain) (curve : CurveName)
    (hash : Option HashName) (message : Octets) : Act V Rehearsal := do
  let blank (mode : Mode) (group number : UInt32) : TestCase :=
    { mode := mode, group := group, number := number, curve := curve, hash := hash,
      message := message }
  let first ← run B (blank .keyGen 1 1)
  let second ← run B (blank .keyGen 1 2)
  let untouched := (← get).keys.isNone
  let checked ← run B { first with mode := .keyVer }
  let a ← run B (blank .sigGen 5 1)
  let b ← run B (blank .sigGen 5 2)
  let c ← run B (blank .sigGen 6 3)
  let kept := (← get).keys.map (·.group)
  let holds ← [a, b, c].mapM fun t => run B { t with mode := .sigVer }
  return {
    keysDiffer := (first.d, first.qx) ≠ (second.d, second.qx)
    slotUntouched := untouched
    pointMatchesScalar :=
      ((domains curve).keyPair? first.d.value).map (·.key.coordinates) = some (pointOf first)
    keyVerdict := checked.verdict
    groupKeyShared := pointOf a = pointOf b
    groupKeyReplaced := pointOf b ≠ pointOf c
    signaturesHold := holds.map fun t => t.verdict = .pass
    keptGroup := kept }

end Rehearsal

end EcdsaVectors
