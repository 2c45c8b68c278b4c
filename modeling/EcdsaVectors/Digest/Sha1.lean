/-
The hash function of the first family, with digests of 160 bits.
-/
import EcdsaVectors.Digest.Blocks
namespace EcdsaVectors.Digest.Sha1

/-- The five words of a state. -/
structure State where
  a : BitVec 32
  b : BitVec 32
  c : BitVec 32
  d : BitVec 32
  e : BitVec 32

/-- The state before the first block. -/
def initial : State := ⟨0x67452301, 0xefcdab89, 0x98badcfe, 0x10325476, 0xc3d2e1f0⟩

/-- The next word of the schedule after sixteen. -/
def nextWord (l : List (BitVec 32)) : BitVec 32 :=
  (l.getD 13 0 ^^^ l.getD 8 0 ^^^ l.getD 2 0 ^^^ l.getD 0 0).rotateLeft 1

/-- How the three words in the middle are mixed, and the constant that is added, in the quarter
`q` of the rounds. -/
def mix (q : Nat) (b c d : BitVec 32) : BitVec 32 × BitVec 32 :=
  match q with
  | 0 => ((b &&& c) ^^^ (~~~b &&& d), 0x5a827999)
  | 1 => (b ^^^ c ^^^ d, 0x6ed9eba1)
  | 2 => ((b &&& c) ^^^ (b &&& d) ^^^ (c &&& d), 0x8f1bbcdc)
  | _ => (b ^^^ c ^^^ d, 0xca62c1d6)

/-- One round, with its word of the schedule and its number. -/
def round (s : State) (wt : BitVec 32 × Nat) : State :=
  -- eighty rounds make four quarters of twenty
  let (f, k) := mix (wt.2 / 20) s.b s.c s.d
  ⟨s.a.rotateLeft 5 + f + s.e + k + wt.1, s.a, s.b.rotateLeft 30, s.c, s.d⟩

/-- The state after a block. -/
def compress (s : State) (block : Octets) : State :=
  let t := (unroll nextWord 80 (words 32 block)).zipIdx.foldl round s
  ⟨s.a + t.a, s.b + t.b, s.c + t.c, s.d + t.d, s.e + t.e⟩

/-- The digest of a message. -/
def digest (m : Octets) : Octets :=
  let s := (wholePieces 64 (padded 64 8 m)).foldl compress initial
  ofWords [s.a, s.b, s.c, s.d, s.e]

end EcdsaVectors.Digest.Sha1
