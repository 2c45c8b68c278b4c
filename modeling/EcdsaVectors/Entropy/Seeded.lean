/-
A source of random numbers made from a seed.

The numbers have 1024 bits, twice as many as an order needs, so that what is left of them
modulo an order is spread evenly.
-/
import EcdsaVectors.Digest
import EcdsaVectors.Entropy
namespace EcdsaVectors

/-- The source whose numbers are digests of the seed and their place. -/
def Entropy.ofSeed (seed : Octets) : Entropy where
  numbers i :=
    let half (k : UInt8) := HashName.sha512.digest (k :: Octets.fixed 8 i ++ seed)
    Octets.value (half 0 ++ half 1)

/-- The source without its power to give numbers. -/
def Entropy.outOfOrder (E : Entropy) : Entropy := { E with working := false }

end EcdsaVectors
