/-
Streams of steps in one session.

Between test cases the key of a group can be fetched in advance, or the key that is kept can be
released.  A stream is performed step by step, and each step gives a result of its own and the
trace of it alone.
-/
import EcdsaVectors.Run
namespace EcdsaVectors

open Program

/-- A step of a session. -/
inductive Step where
  /-- Runs a test case. -/
  | run (case : TestCase)
  /-- Fetches the key of a group. -/
  | fetch (group : UInt32) (curve : CurveName)
  /-- Releases the key that is kept. -/
  | release
  deriving DecidableEq, Repr

/-- What a step comes to. -/
inductive StepResult (V : Values) where
  | ran (result : Except Fault Unit) (case : TestCase)
  | fetched (result : Except Fault (Fetched V))
  | released

/-- What a step leaves. -/
structure StepReport (V : Values) (σ : Type) where
  result : StepResult V
  session : Session (Slot V) σ
  trace : List (Entry V)

variable {V : Values} {σ : Type}

/-- Performs a step. -/
def Step.perform (B : Backend V σ) (s : Session (Slot V) σ) : Step → StepReport V σ
  | run case =>
    let report := case.run (.slot V) B s
    ⟨.ran report.result report.case, report.session, report.trace⟩
  | fetch group curve =>
    let o := (s.run B (Codec.lookUpCurve curve)).andThen fun c s => s.fetch (.slot V) B group c
    ⟨.fetched o.result, o.state, o.trace⟩
  | release =>
    let (empty, events) := s.keys.release
    ⟨.released, { s with keys := empty }, events.map .event⟩

/-- A session with no key. -/
def Session.fresh (backend : σ) : Session (Slot V) σ := ⟨none, backend⟩

end EcdsaVectors
