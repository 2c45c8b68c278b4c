/-
The hash functions of the second family.

They come in two kinds, for words of 32 and of 64 bits, which differ in the distances of their
rotations and in the number of rounds.  Within a kind the functions differ in the state before
the first block and in the length to which the last state is cut.
-/
import EcdsaVectors.Digest.Blocks
namespace EcdsaVectors.Digest.Sha2

/-- A kind of function, on words of `w` bits. -/
structure Kind (w : Nat) where
  /-- The constants of the rounds. -/
  constants : List (BitVec w)
  /-- The rotations of the first word of the state. -/
  first : Nat × Nat × Nat
  /-- The rotations of the fifth word of the state. -/
  fifth : Nat × Nat × Nat
  /-- Two rotations and a shift of the older word of the schedule. -/
  older : Nat × Nat × Nat
  /-- Two rotations and a shift of the newer word of the schedule. -/
  newer : Nat × Nat × Nat

/-- The kind for words of 32 bits. -/
def short : Kind 32 where
  constants := (primes.take 64).map fun p => (cubeRootBits p).extractLsb' 32 32
  first := (2, 13, 22)
  fifth := (6, 11, 25)
  older := (7, 18, 3)
  newer := (17, 19, 10)

/-- The kind for words of 64 bits. -/
def long : Kind 64 where
  constants := primes.map cubeRootBits
  first := (28, 34, 39)
  fifth := (14, 18, 41)
  older := (1, 8, 7)
  newer := (19, 61, 6)

/-- The eight words of a state. -/
structure State (w : Nat) where
  a : BitVec w
  b : BitVec w
  c : BitVec w
  d : BitVec w
  e : BitVec w
  f : BitVec w
  g : BitVec w
  h : BitVec w

variable {w : Nat}

/-- The words of a state in order. -/
def State.toList (s : State w) : List (BitVec w) := [s.a, s.b, s.c, s.d, s.e, s.f, s.g, s.h]

/-- The state made from a list of eight words. -/
def State.ofList (l : List (BitVec w)) : State w :=
  ⟨l.getD 0 0, l.getD 1 0, l.getD 2 0, l.getD 3 0, l.getD 4 0, l.getD 5 0, l.getD 6 0, l.getD 7 0⟩

/-- The exclusive or of three rotations of a word. -/
def rotations (r : Nat × Nat × Nat) (x : BitVec w) : BitVec w :=
  x.rotateRight r.1 ^^^ x.rotateRight r.2.1 ^^^ x.rotateRight r.2.2

/-- The exclusive or of two rotations and a shift of a word. -/
def rotationsAndShift (r : Nat × Nat × Nat) (x : BitVec w) : BitVec w :=
  x.rotateRight r.1 ^^^ x.rotateRight r.2.1 ^^^ x >>> r.2.2

namespace Kind

variable (K : Kind w)

/-- The next word of the schedule after sixteen. -/
def nextWord (l : List (BitVec w)) : BitVec w :=
  rotationsAndShift K.newer (l.getD 14 0) + l.getD 9 0 + rotationsAndShift K.older (l.getD 1 0)
    + l.getD 0 0

/-- One round, with its constant and its word of the schedule. -/
def round (s : State w) (kw : BitVec w × BitVec w) : State w :=
  let chosen := (s.e &&& s.f) ^^^ (~~~s.e &&& s.g)
  let majority := (s.a &&& s.b) ^^^ (s.a &&& s.c) ^^^ (s.b &&& s.c)
  let t := s.h + rotations K.fifth s.e + chosen + kw.1 + kw.2
  ⟨t + rotations K.first s.a + majority, s.a, s.b, s.c, s.d + t, s.e, s.f, s.g⟩

/-- The state after a block. -/
def compress (s : State w) (block : Octets) : State w :=
  let schedule := unroll K.nextWord K.constants.length (words w block)
  let t := (K.constants.zip schedule).foldl K.round s
  .ofList (List.zipWith (· + ·) s.toList t.toList)

/-- The state after a message.  A block has sixteen words, and two words hold the length. -/
def absorb (s : State w) (m : Octets) : State w :=
  (wholePieces (2 * w) (padded (2 * w) (w / 4) m)).foldl K.compress s

/-- The digest of `n` octets of a message. -/
def digest (n : Nat) (s : State w) (m : Octets) : Octets :=
  (ofWords (K.absorb s m).toList).take n

end Kind

/-! ## The states before the first block -/

/-- The square roots of eight primes, from a place in their list on. -/
def roots (i : Nat) : State 64 :=
  .ofList (((primes.drop i).take 8).map squareRootBits)

/-- The upper halves of the words of a state. -/
def upper (s : State 64) : State 32 := .ofList (s.toList.map fun x => x.extractLsb' 32 32)

/-- The lower halves of the words of a state. -/
def lower (s : State 64) : State 32 := .ofList (s.toList.map fun x => x.extractLsb' 0 32)

/-- The state for digests of 224 bits. -/
def initial224 : State 32 := lower (roots 8)

/-- The state for digests of 256 bits. -/
def initial256 : State 32 := upper (roots 0)

/-- The state for digests of 384 bits. -/
def initial384 : State 64 := roots 8

/-- The state for digests of 512 bits. -/
def initial512 : State 64 := roots 0

/-- The state for digests that are cut from 512 bits without being a part of the digest of 512
bits: the one that the name of the function leads to, from a state with half of its bits
inverted. -/
def initialTruncated (name : String) : State 64 :=
  long.absorb (.ofList (initial512.toList.map (· ^^^ 0xa5a5a5a5a5a5a5a5)))
    (name.toList.map fun c => UInt8.ofNat c.toNat)

/-- The state for digests of 224 bits cut from 512. -/
def initial512_224 : State 64 := initialTruncated "SHA-512/224"

/-- The state for digests of 256 bits cut from 512. -/
def initial512_256 : State 64 := initialTruncated "SHA-512/256"

end EcdsaVectors.Digest.Sha2
