/-
The names of the fifteen elliptic curves.

The letter tells the kind of curve: `P` a curve over a prime field, `K` a Koblitz curve and `B`
a pseudo-random curve, both over a binary field.  The number is the size of the field in bits.
-/
import EcdsaVectors.Named
namespace EcdsaVectors

/-- The name of an elliptic curve. -/
inductive CurveName where
  | p192 | p224 | p256 | p384 | p521
  | k163 | k233 | k283 | k409 | k571
  | b163 | b233 | b283 | b409 | b571
  deriving DecidableEq, Repr

namespace CurveName

/-- The name as one word. -/
def identifier : CurveName → String
  | p192 => "P192" | p224 => "P224" | p256 => "P256" | p384 => "P384" | p521 => "P521"
  | k163 => "K163" | k233 => "K233" | k283 => "K283" | k409 => "K409" | k571 => "K571"
  | b163 => "B163" | b233 => "B233" | b283 => "B283" | b409 => "B409" | b571 => "B571"

/-- The name as vector files write it, with a dash after the letter. -/
def text : CurveName → String
  | p192 => "P-192" | p224 => "P-224" | p256 => "P-256" | p384 => "P-384" | p521 => "P-521"
  | k163 => "K-163" | k233 => "K-233" | k283 => "K-283" | k409 => "K-409" | k571 => "K-571"
  | b163 => "B-163" | b233 => "B-233" | b283 => "B-283" | b409 => "B-409" | b571 => "B-571"

instance : Named CurveName where
  all := [p192, p224, p256, p384, p521, k163, k233, k283, k409, k571, b163, b233, b283, b409, b571]
  identifier := identifier
  text := text

theorem proper : Named.Proper CurveName where
  listed C := by cases C <;> decide
  distinct := by decide +kernel

/-- The number of the curve in the registry of object identifiers. -/
def objectNumber : CurveName → Nat
  | p192 => 409 | p224 => 713 | p256 => 415 | p384 => 715 | p521 => 716
  | k163 => 721 | k233 => 726 | k283 => 729 | k409 => 731 | k571 => 733
  | b163 => 723 | b233 => 727 | b283 => 730 | b409 => 732 | b571 => 734

end CurveName

end EcdsaVectors
