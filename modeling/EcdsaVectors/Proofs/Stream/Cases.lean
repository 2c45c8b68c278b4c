/-
Streams of test cases, with any store of group keys.

A stream of cases is run case by case in one session.  It makes sense for every store, and so
two stores can be compared on it.  What there is to compare is an `Observation` of each case:
what the run comes to, the case that it leaves, what it asks of the backend and the state in
which it leaves the backend.
-/
import EcdsaVectors.Stream
import EcdsaVectors.Proofs.Outcome.Matches
namespace EcdsaVectors

variable {V : Values} {κ σ : Type}

/-- Runs the cases of a stream one after the other. -/
def Session.runAll (K : KeyStore V κ) (B : Backend V σ) (s : Session κ σ) :
    List TestCase → List (Report V κ σ)
  | [] => []
  | c :: cs =>
    let report := c.run K B s
    report :: report.session.runAll K B cs

/-- What can be seen of a run without a look at the keys that are kept. -/
structure Observation (V : Values) (σ : Type) where
  result : Except Fault Unit
  case : TestCase
  /-- The requests to the backend with their answers, in order. -/
  requests : List (Entry V)
  /-- The state of the backend after the run, which tells how much it has given out. -/
  backend : σ

/-- The observation of a run. -/
def Report.observed (r : Report V κ σ) : Observation V σ :=
  ⟨r.result, r.case, requests r.trace, r.session.backend⟩

/-- The group for which a task wants a key, if it wants one. -/
def Task.group? : Task V → Option UInt32
  | sigGen _ _ group _ => some group
  | _ => none

/-- The group for which a case wants a key: there is one if the case asks for a signature and
the names in it are known to the backend. -/
def TestCase.requestedGroup? (B : Backend V σ) (s : Session κ σ) (c : TestCase) :
    Option UInt32 :=
  match (s.run B c.task).result with
  | .ok task => task.group?
  | .error _ => none

/-- The groups for which the cases of a stream want keys, in order. -/
def Session.requestedGroups (K : KeyStore V κ) (B : Backend V σ) (s : Session κ σ) :
    List TestCase → List UInt32
  | [] => []
  | c :: cs =>
    (c.requestedGroup? B s).toList ++ (c.run K B s).session.requestedGroups K B cs

end EcdsaVectors
