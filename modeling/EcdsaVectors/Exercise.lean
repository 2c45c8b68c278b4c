/-
Exercises: single programs on a scripted backend.

Each reads something and writes it again, or makes it and writes it, so that the two directions
can be compared.
-/
import EcdsaVectors.Run
import EcdsaVectors.Script
namespace EcdsaVectors

open Program

variable {V : Values} {α β : Type}

namespace Exercise

/-- Reads a scalar and writes it. -/
def scalar (b : Octets) : Program V Octets := do
  let v ← Codec.readScalar b
  Codec.writeInteger v

/-- Reads a signature and writes it. -/
def signature (r s : Octets) : Program V (Octets × Octets) := do
  let S ← Codec.readSignature r s
  Codec.writeSignature S

/-- Reads a point and writes it, if it is valid. -/
def point (curve : CurveName) (qx qy : Octets) : Program V (Option (Octets × Octets)) := do
  let curve ← Codec.lookUpCurve curve
  match ← Codec.readPoint curve qx qy with
  | none => pure none
  | some key => some <$> Codec.writePoint key

/-- Makes a key pair and writes it. -/
def key (curve : CurveName) : Program V Output := do
  let curve ← Codec.lookUpCurve curve
  makeKey curve

/-- What an exercise comes to, and the record of its requests. -/
structure Report (α : Type) where
  result : α
  requests : List String

/-- Performs one exercise. -/
def perform (G : Stage V) (script : Script) (E : Entropy) (p : Program V α) :
    Report (Except Fault α) :=
  let o := p.run G.scripted (script, E)
  ⟨o.result, o.trace.filterMap Entry.requestLine?⟩

/-- Looks up a curve, then a hash function, each if it is given.  The second is looked up even
if the first is not found. -/
def lookUp (G : Stage V) (script : Script) (E : Entropy) (curve : Option CurveName)
    (hash : Option (Option HashName)) :
    Report (Option (Except Fault V.Curve) × Option (Except Fault V.Digest)) :=
  let c := curve.map fun c => (Codec.lookUpCurve c).run G.scripted (script, E)
  let s := (c.map (·.state)).getD (script, E)
  let h := hash.map fun h => (Codec.lookUpHash h).run G.scripted s
  let trace := ((c.map (·.trace)).getD []) ++ ((h.map (·.trace)).getD [])
  ⟨(c.map (·.result), h.map (·.result)), trace.filterMap Entry.requestLine?⟩

end Exercise

end EcdsaVectors
