/-
Nonces that are determined by the private scalar and the digest.

A generator holds a key and a value.  The seed enters twice, with a mark that tells the two
times apart; afterwards the value is replaced by its keyed digest again and again, and these
digests are the output.  The nonce is the first number in range, and after each number that is
asked for the key changes, so that no later number tells anything about it.
-/
import EcdsaVectors.Digest
namespace EcdsaVectors

/-- A generator of octets under a hash function. -/
structure NonceGenerator where
  hash : HashName
  key : Octets
  value : Octets

namespace NonceGenerator

/-- Mixes octets into the key, and renews the value. -/
def stir (g : NonceGenerator) (b : Octets) : NonceGenerator :=
  let key := g.hash.keyedDigest g.key (g.value ++ b)
  { g with key := key, value := g.hash.keyedDigest key g.value }

/-- The generator made from a seed. -/
def ofSeed (h : HashName) (seed : Octets) : NonceGenerator :=
  let blank : NonceGenerator :=
    ⟨h, List.replicate h.digestLength 0, List.replicate h.digestLength 1⟩
  (blank.stir (0 :: seed)).stir (1 :: seed)

/-- Renews the value `k` times and gives the values one after the other. -/
def values (g : NonceGenerator) : (k : Nat) → Octets × NonceGenerator
  | 0 => ([], g)
  | k + 1 =>
    let g := { g with value := g.hash.keyedDigest g.key g.value }
    let (b, g') := g.values k
    (g.value ++ b, g')

/-- The next `w` octets. -/
def next (g : NonceGenerator) (w : Nat) : Octets × NonceGenerator :=
  -- as many values as it takes to fill `w` octets
  let (b, g) := g.values ((w + g.hash.digestLength - 1) / g.hash.digestLength)
  (b.take w, g.stir [0])

/-- The first number of `w` octets, among as many as allowed, that is positive and below `n`. -/
def firstBelow (n w : Nat) : (attempts : Nat) → NonceGenerator → Option Nat
  | 0, _ => none
  | a + 1, g =>
    let (b, g) := g.next w
    if 0 < b.value ∧ b.value < n then some b.value else firstBelow n w a g

end NonceGenerator

/-- The nonce below `n` for the scalar `d` and the digest `z` of `w` octets.  A number is in
range with a probability of at least one half when `n` has `8 * w` bits, so it is found long
before the attempts run out. -/
def deterministicNonce? (h : HashName) (n w d : Nat) (z : Octets) : Option Nat :=
  (NonceGenerator.ofSeed h (Octets.fixed w d ++ z)).firstBelow n w 256

end EcdsaVectors
