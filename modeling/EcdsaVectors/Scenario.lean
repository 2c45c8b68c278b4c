/-
Scenarios: steps in one session on a scripted backend, with cases that are made from the cases
of earlier steps.

A case is given as a blank or as the case that an earlier step left, with changes to it: fields
are replaced, then bits are inverted, then zeros are put in front.  Components of a signature
that a random nonce went into are marked, for nothing is to be said of their octets; the mark
follows them through copies, inverted bits and zeros in front, until the component is replaced.
-/
import EcdsaVectors.Backend.FixedWidth
import EcdsaVectors.Domain.Standard
import EcdsaVectors.Entropy.Seeded
import EcdsaVectors.Script
import EcdsaVectors.Stream
namespace EcdsaVectors

/-! ## Cases and their changes -/

/-- A field of octets that can be spoiled. -/
inductive Part where
  | message
  | qx
  | qy
  | r
  | s
  deriving DecidableEq, Repr

/-- The part with its name as word. -/
def Part.text : Part → String
  | message => "message"
  | qx => "qx"
  | qy => "qy"
  | r => "r"
  | s => "s"

instance : Named Part where
  all := [.message, .qx, .qy, .r, .s]
  identifier := Part.text
  text := Part.text

/-- Changes to a case.  What is not given stays as it is. -/
structure Changes where
  mode : Option Mode := none
  group : Option UInt32 := none
  number : Option UInt32 := none
  curve : Option CurveName := none
  hash : Option (Option HashName) := none
  message : Option Octets := none
  qx : Option Octets := none
  qy : Option Octets := none
  d : Option Octets := none
  r : Option Octets := none
  s : Option Octets := none
  verdict : Option Verdict := none
  /-- The parts whose last bit is inverted, one after the other. -/
  flip : List Part := []
  /-- The parts that get a zero in front, one after the other. -/
  pad : List Part := []

/-- A case, with marks at the components of its signature that a random nonce went into. -/
structure Sheet where
  case : TestCase
  randomR : Bool := false
  randomS : Bool := false

namespace TestCase

/-- The case with a part changed. -/
def onPart (c : TestCase) (f : Octets → Octets) : Part → TestCase
  | .message => { c with message := f c.message }
  | .qx => { c with qx := f c.qx }
  | .qy => { c with qy := f c.qy }
  | .r => { c with r := f c.r }
  | .s => { c with s := f c.s }

/-- The case with fields replaced. -/
def replace (c : TestCase) (a : Changes) : TestCase where
  mode := a.mode.getD c.mode
  group := a.group.getD c.group
  number := a.number.getD c.number
  curve := a.curve.getD c.curve
  hash := a.hash.getD c.hash
  message := a.message.getD c.message
  qx := a.qx.getD c.qx
  qy := a.qy.getD c.qy
  d := a.d.getD c.d
  r := a.r.getD c.r
  s := a.s.getD c.s
  verdict := a.verdict.getD c.verdict

end TestCase

/-- The string with its last bit inverted. -/
def Octets.flipLast (b : Octets) : Octets :=
  match b.reverse with
  | [] => []
  | o :: rest => ((o ^^^ 1) :: rest).reverse

/-- The sheet with changes. -/
def Sheet.change (h : Sheet) (a : Changes) : Sheet where
  case :=
    let c := h.case.replace a
    let c := a.flip.foldl (fun c p => c.onPart Octets.flipLast p) c
    a.pad.foldl (fun c p => c.onPart (0 :: ·) p) c
  randomR := h.randomR && a.r.isNone
  randomS := h.randomS && a.s.isNone

/-! ## Steps -/

/-- Where the case of a step comes from. -/
inductive Origin where
  /-- A case with nothing in it. -/
  | blank (mode : Mode) (curve : CurveName)
  /-- The case that an earlier step left, counted from zero. -/
  | step (i : Nat)

/-- A step of a scenario. -/
inductive Scene where
  /-- Runs a case, with the source of random numbers out of order or not. -/
  | run (origin : Origin) (changes : Changes) (outage : Bool)
  | fetch (group : UInt32) (curve : CurveName)
  | release

/-- Whether the source of random numbers is in order during a step. -/
def Scene.hasSource : Scene → Bool
  | .run _ _ outage => !outage
  | .fetch .. | .release => true

/-- What the check of a signature comes to on each backend; nothing where it cannot be
executed. -/
structure CrossCheck where
  bigInteger : Option Bool
  fixedWidth : Option Bool

/-- What the step of a scenario comes to. -/
inductive SceneResult where
  | ran (result : Except Fault Unit) (sheet : Sheet) (check? : Option CrossCheck)
  | fetched (result : Except Fault (Bool × UInt32 × Octets × Octets))
  | released

/-- The sheet of a step that has one. -/
def SceneResult.sheet? : SceneResult → Option Sheet
  | .ran _ sheet _ => some sheet
  | .fetched _ | .released => none

/-- What is seen of a step. -/
structure SceneReport where
  result : SceneResult
  /-- The lines of the record of requests. -/
  requests : List String
  /-- The number of keys that the script still has. -/
  keysLeft : Nat
  /-- The key that is kept, by its group and its point. -/
  kept : Option (UInt32 × Octets × Octets)
  /-- The lines of the log. -/
  events : List String

variable {V : Values}

/-- What a run of the case as a check comes to on a backend by itself. -/
def TestCase.holds? (B : Backend V Entropy) (c : TestCase) : Option Bool :=
  let report := { c with mode := .sigVer }.run (.slot V) B (.fresh (.ofSeed []))
  match report.result with
  | .ok () => some (report.case.verdict = .pass)
  | .error _ => none

/-- The check of a signature on both backends. -/
def TestCase.crossCheck (c : TestCase) : CrossCheck where
  bigInteger := c.holds? (.bigInteger .standard)
  fixedWidth := c.holds? (.fixedWidth .standard)

/-- The first backend on stage. -/
def Stage.bigInteger : Stage BigInteger.values where
  backend := .bigInteger .standard
  keyPair? := Domain.keyPair?
  drawsNonces := true

/-- The second backend on stage. -/
def Stage.fixedWidth : Stage FixedWidth.values where
  backend := .fixedWidth .standard
  keyPair? := FixedWidth.keyPair?
  drawsNonces := false

/-- The group and the point of a key. -/
def GroupKey.shown (k : GroupKey V) : UInt32 × Octets × Octets := (k.group, k.qx, k.qy)

namespace Scenario

/-- The session and the sheets of the steps so far, the last one first.  A step without a case
has none. -/
structure State (V : Values) where
  session : Session (Slot V) (Script × Entropy)
  sheets : List (Option Sheet) := []

/-- The sheet that a step begins with. -/
def State.sheet? (s : State V) : Origin → Option Sheet
  | .blank mode curve => some { case := { mode := mode, group := 0, number := 0, curve := curve } }
  | .step i => (s.sheets.reverse[i]?).join

/-- The session during a step, with the source of random numbers in order or not. -/
def withSource (working : Bool) (s : Session (Slot V) (Script × Entropy)) :
    Session (Slot V) (Script × Entropy) :=
  { s with backend := (s.backend.1, { s.backend.2 with working := working }) }

/-- The step that a scene consists of, and the sheet that it begins with if it has a case. -/
def State.step? (s : State V) : Scene → Option (Step × Option Sheet)
  | .run origin changes _ => do
    let sheet := (← s.sheet? origin).change changes
    some (.run sheet.case, some sheet)
  | .fetch group curve => some (.fetch group curve, none)
  | .release => some (.release, none)

/-- The sheet that a run leaves.  The marks are set by a signature with a random nonce. -/
def sheetAfter (G : Stage V) (before : Option Sheet) (result : Except Fault Unit)
    (case : TestCase) : Sheet :=
  let random := result.isOk && case.mode = .sigGen && G.drawsNonces
  ⟨case, random || before.any (·.randomR), random || before.any (·.randomS)⟩

/-- What a step comes to, as it is seen.  A signature that has been made is checked at once. -/
def seen (G : Stage V) (before : Option Sheet) : StepResult V → SceneResult
  | .ran result case =>
    .ran result (sheetAfter G before result case)
      (if result.isOk ∧ case.mode = .sigGen then some case.crossCheck else none)
  | .fetched result => .fetched (result.map fun f => (f.reused, f.key.shown))
  | .released => .released

/-- Performs a step of a scenario; `none` if it goes back to a step that has no case. -/
def State.perform (G : Stage V) (s : State V) (scene : Scene) : Option (SceneReport × State V) := do
  let (step, before) ← s.step? scene
  let r := step.perform G.scripted (withSource scene.hasSource s.session)
  let session := withSource true r.session
  let result := seen G before r.result
  some
    (⟨result, r.trace.filterMap Entry.requestLine?, session.backend.1.keys.length,
      session.keys.map GroupKey.shown, (r.trace.filterMap Entry.event?).map Event.line⟩,
     ⟨session, result.sheet? :: s.sheets⟩)

/-- Performs the steps of a scenario. -/
def State.performAll (G : Stage V) (s : State V) : List Scene → Option (List SceneReport)
  | [] => some []
  | scene :: scenes => do
    let (report, s) ← s.perform G scene
    let reports ← s.performAll G scenes
    some (report :: reports)

/-- Performs a scenario from the beginning. -/
def perform (G : Stage V) (script : Script) (E : Entropy) (scenes : List Scene) :
    Option (List SceneReport) :=
  State.performAll G ⟨.fresh (script, E), []⟩ scenes

end Scenario

end EcdsaVectors
