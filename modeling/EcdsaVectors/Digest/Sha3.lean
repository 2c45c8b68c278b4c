/-
The hash functions of the third family.

The state is a cube of five by five lanes of 64 bits; the lane at column `x` and row `y` has
the number `x + 5 * y`.  A permutation of the state is applied after each block of the message
has been added to its first lanes, and the digest is read off the first lanes in the end.  The
longest digest is shorter than the shortest block, so it is read in one piece.
-/
import EcdsaVectors.Digest.Blocks
namespace EcdsaVectors.Digest.Sha3

/-- The twenty-five lanes of a state. -/
abbrev State := Vector (BitVec 64) 25

/-- The distances by which the lanes are rotated. -/
def offsets : Vector Nat 25 :=
  #v[0, 1, 62, 28, 27, 36, 44, 6, 55, 20, 3, 10, 43, 25, 39, 41, 45, 15, 21, 8, 18, 2, 61, 56, 14]

/-- The constants of the rounds. -/
def constants : List (BitVec 64) :=
  [ 0x0000000000000001, 0x0000000000008082, 0x800000000000808a, 0x8000000080008000,
    0x000000000000808b, 0x0000000080000001, 0x8000000080008081, 0x8000000000008009,
    0x000000000000008a, 0x0000000000000088, 0x0000000080008009, 0x000000008000000a,
    0x000000008000808b, 0x800000000000008b, 0x8000000000008089, 0x8000000000008003,
    0x8000000000008002, 0x8000000000000080, 0x000000000000800a, 0x800000008000000a,
    0x8000000080008081, 0x8000000000008080, 0x0000000080000001, 0x8000000080008008 ]

/-- The number of the lane at a column and a row, both counted around the cube. -/
def lane (x y : Nat) : Fin 25 := ⟨x % 5 + 5 * (y % 5), by omega⟩

/-- Adds to every lane the parities of two columns beside its own. -/
def diffuse (s : State) : State :=
  let parity : Vector (BitVec 64) 5 := Vector.ofFn fun x =>
    s[lane x 0] ^^^ s[lane x 1] ^^^ s[lane x 2] ^^^ s[lane x 3] ^^^ s[lane x 4]
  let change : Vector (BitVec 64) 5 := Vector.ofFn fun x =>
    parity[x + 4] ^^^ parity[x + 1].rotateLeft 1
  Vector.ofFn fun i => s[i] ^^^ change.get ⟨i.val % 5, by omega⟩

/-- Rotates every lane and moves it to another place: the lane at `(x, y)` goes to
`(y, 2 * x + 3 * y)`, so that the one at `(x, y)` comes from `(x + 3 * y, x)`. -/
def disperse (s : State) : State :=
  Vector.ofFn fun i =>
    let j := lane (i.val % 5 + 3 * (i.val / 5)) (i.val % 5)
    s[j].rotateLeft offsets[j]

/-- Combines every lane with the next two in its row. -/
def combine (s : State) : State :=
  Vector.ofFn fun i =>
    let next (k : Nat) := s[lane (i.val % 5 + k) (i.val / 5)]
    s[i] ^^^ (~~~next 1 &&& next 2)

/-- One round, with its constant added to the first lane. -/
def round (s : State) (c : BitVec 64) : State :=
  let t := combine (disperse (diffuse s))
  t.set 0 (t[0] ^^^ c)

/-- The permutation of the state. -/
def permute (s : State) : State := constants.foldl round s

/-- Adds a block to the first lanes, the least significant octet of each lane first, and
permutes. -/
def absorb (s : State) (block : Octets) : State :=
  let lanes := (wholePieces 8 block).map fun o => BitVec.ofNat 64 (Octets.value o.reverse)
  permute (Vector.ofFn fun i => s[i] ^^^ lanes.getD i.val 0)

/-- The message padded to whole blocks of `n` octets: two bits that mark the family, a one,
zeros, and a one at the end. -/
def padded (n : Nat) (m : Octets) : Octets :=
  match n - 1 - m.length % n with
  | 0 => m ++ [0x86]
  | k + 1 => m ++ 0x06 :: List.replicate k 0 ++ [0x80]

/-- The digest of `n` octets of a message.  What the state has beyond a block is twice as long
as the digest. -/
def digest (n : Nat) (m : Octets) : Octets :=
  let rate := 200 - 2 * n
  let s := (wholePieces rate (padded rate m)).foldl absorb (Vector.replicate 25 0)
  (s.toList.flatMap fun x => (Octets.fixed 8 x.toNat).reverse).take n

end EcdsaVectors.Digest.Sha3
