/-
What hash functions have in common: blocks, padding, message schedules and constants without a
secret.

A hash function cuts the message into blocks after padding it to whole blocks.  The functions
of the first two families append the bit one, zeros and the length of the message in bits.
Whole blocks result, and together they are all of the padded message
(`flatten_wholePieces_padded`).  The constants of these functions are the leading fractional
bits of roots of the first primes.
-/
import EcdsaVectors.Octets
namespace EcdsaVectors.Digest

variable {α : Type}

/-- The first `k` pieces of length `n` of a list. -/
def pieces (n : Nat) : (k : Nat) → List α → List (List α)
  | 0, _ => []
  | k + 1, l => l.take n :: pieces n k (l.drop n)

/-- The whole pieces of length `n` of a list. -/
def wholePieces (n : Nat) (l : List α) : List (List α) :=
  pieces n (l.length / n) l

theorem flatten_pieces (n k : Nat) (l : List α) : (pieces n k l).flatten = l.take (k * n) := by
  induction k generalizing l with
  | zero => simp [pieces]
  | succ k ih => rw [pieces, List.flatten_cons, ih, ← List.take_add, Nat.succ_mul, Nat.add_comm n]

/-- Nothing is lost of a list that is cut into whole pieces without a rest. -/
theorem flatten_wholePieces {n : Nat} {l : List α} (h : l.length % n = 0) :
    (wholePieces n l).flatten = l := by
  rw [wholePieces, flatten_pieces, Nat.div_mul_cancel (Nat.dvd_of_mod_eq_zero h),
    List.take_length]

/-- The message padded to whole blocks of `n` octets: the bit one, zeros, and the length of the
message in bits as a number of `k` octets. -/
def padded (n k : Nat) (m : Octets) : Octets :=
  m ++ 0x80 :: List.replicate ((n - (m.length + 1 + k) % n) % n) 0 ++ Octets.fixed k (8 * m.length)

theorem length_padded {n : Nat} (k : Nat) (m : Octets) (hn : 0 < n) :
    (padded n k m).length % n = 0 := by
  have hlt := Nat.mod_lt (m.length + 1 + k) hn
  have hlen : (padded n k m).length = m.length + 1 + k + (n - (m.length + 1 + k) % n) % n := by
    simp [padded]; omega
  rw [hlen, Nat.add_mod, Nat.mod_mod]
  rcases Nat.eq_zero_or_pos ((m.length + 1 + k) % n) with h | h
  · simp [h]
  · rw [Nat.mod_eq_of_lt (a := n - _) (by omega), Nat.add_sub_cancel' (by omega), Nat.mod_self]

/-- **The blocks of a padded message are all of it**: no octet is left over at the end. -/
theorem flatten_wholePieces_padded {n : Nat} (k : Nat) (m : Octets) (hn : 0 < n) :
    (wholePieces n (padded n k m)).flatten = padded n k m :=
  flatten_wholePieces (length_padded k m hn)

/-- The first `k` terms of a sequence that begins with the given terms and goes on by a rule
for the next term after as many. -/
def unroll (next : List α → α) : (k : Nat) → List α → List α
  | k + 1, a :: l => a :: unroll next k (l ++ [next (a :: l)])
  | _, _ => []

/-- The words of `w` bits in a string of octets, the most significant octet of each first. -/
def words (w : Nat) (b : Octets) : List (BitVec w) :=
  (wholePieces (w / 8) b).map fun o => BitVec.ofNat w (Octets.value o)

/-- The octets of words of `w` bits. -/
def ofWords {w : Nat} (l : List (BitVec w)) : Octets :=
  l.flatMap fun x => Octets.fixed (w / 8) x.toNat

/-- The eighty smallest primes. -/
def primes : List Nat :=
  [ 2, 3, 5, 7, 11, 13, 17, 19, 23, 29, 31, 37, 41, 43, 47, 53, 59, 61, 67, 71, 73, 79, 83, 89,
    97, 101, 103, 107, 109, 113, 127, 131, 137, 139, 149, 151, 157, 163, 167, 173, 179, 181, 191,
    193, 197, 199, 211, 223, 227, 229, 233, 239, 241, 251, 257, 263, 269, 271, 277, 281, 283, 293,
    307, 311, 313, 317, 331, 337, 347, 349, 353, 359, 367, 373, 379, 383, 389, 397, 401, 409 ]

/-- The greatest number that is made from `r` by adding a number of `b` bits and at which an
increasing function is at most `n`. -/
def greatestAbove (f : Nat → Nat) (n : Nat) : (b r : Nat) → Nat
  | 0, r => r
  | b + 1, r =>
    let s := r + 1 <<< b
    greatestAbove f n b (if f s ≤ n then s else r)

/-- The first sixty-four fractional bits of the square root of a number of at most twelve bits. -/
def squareRootBits (p : Nat) : BitVec 64 :=
  BitVec.ofNat 64 (greatestAbove (fun x => x * x) (p <<< 128) 76 0)

/-- The first sixty-four fractional bits of the cube root of a number of at most twelve bits. -/
def cubeRootBits (p : Nat) : BitVec 64 :=
  BitVec.ofNat 64 (greatestAbove (fun x => x * x * x) (p <<< 192) 76 0)

end EcdsaVectors.Digest
