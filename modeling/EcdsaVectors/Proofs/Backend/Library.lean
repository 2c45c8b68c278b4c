/-
The backends that there are.

What is said of every `Library` is said of the two backends on the standard domains.  Each is
faithful to its meaning (`Library.faithful`), and a curve that both know is one of the two of
the backend on strings of octets.
-/
import EcdsaVectors.Proofs.Backend.FixedWidth
namespace EcdsaVectors

/-- The backends that there are. -/
inductive Library where
  | bigInteger
  | fixedWidth
  deriving DecidableEq, Repr

namespace Library

/-- The values that the backend works with. -/
abbrev values : Library → Values
  | bigInteger => BigInteger.values
  | fixedWidth => FixedWidth.values

/-- The backend, on the standard domains. -/
def backend : (L : Library) → Backend L.values Entropy
  | bigInteger => .bigInteger .standard
  | fixedWidth => .fixedWidth .standard

/-- For what the values stand. -/
def meaning : (L : Library) → Meaning L.values
  | bigInteger => BigInteger.meaning
  | fixedWidth => FixedWidth.meaning

/-- The curves that the backend knows. -/
def knows : Library → CurveName → Bool
  | bigInteger => fun _ => true
  | fixedWidth => FixedWidth.knows

/-- Each backend is faithful to its meaning. -/
lemma faithful : (L : Library) → L.backend.Faithful L.meaning .standard L.knows
  | bigInteger => BigInteger.faithful .standard
  | fixedWidth => FixedWidth.faithful fun _ => FixedWidth.wholeOctets_standard

/-- The curves that both know. -/
lemma knows_of_eq_p256_or_p384 {C : CurveName} (h : C = .p256 ∨ C = .p384) (L : Library) :
    L.knows C = true := by
  rcases h with rfl | rfl <;> cases L <;> rfl

end Library

end EcdsaVectors
