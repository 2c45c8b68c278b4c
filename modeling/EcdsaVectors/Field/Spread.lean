/-
Polynomials over the field of two elements, with their coefficients spread out.

The coefficient of `X ^ i` is the digit `i` of a number in base 1024.  The product of two such
numbers then has at digit `i` the number of ways in which `X ^ i` arises in the product of the
polynomials: there are fewer than 1024 of them, so no digit runs over into the next, and their
parity is the coefficient wanted.  Multiplication thus is one multiplication of integers, after
which all but the lowest bit of each digit are dropped.  Addition is the exclusive or.
-/
namespace EcdsaVectors.Spread

/-- Spreads the `m` lowest bits of `v`. -/
def ofBits : (m v : Nat) → Nat
  | 0, _ => 0
  | m + 1, v => v % 2 + 1024 * ofBits m (v / 2)

/-- Gathers the lowest bits of the `m` lowest digits of `s`. -/
def toBits : (m s : Nat) → Nat
  | 0, _ => 0
  | m + 1, s => s % 2 + 2 * toBits m (s / 1024)

/-- The number whose `m` digits are all one. -/
def ones (m : Nat) : Nat := (1 <<< (10 * m) - 1) / 1023

theorem toBits_ofBits {m v : Nat} (h : v >>> m = 0) : toBits m (ofBits m v) = v := by
  induction m generalizing v with
  | zero => exact (show v = 0 from h).symm
  | succ m ih =>
    have hv : (v / 2) >>> m = 0 := by
      change (v >>> 1) >>> m = 0
      rw [← Nat.shiftRight_add, Nat.add_comm, h]
    have h1 : (v % 2 + 1024 * ofBits m (v / 2)) % 2 = v % 2 := by omega
    have h2 : (v % 2 + 1024 * ofBits m (v / 2)) / 1024 = ofBits m (v / 2) := by omega
    rw [ofBits, toBits, h1, h2, ih hv]
    exact Nat.mod_add_div v 2

/-- A monic polynomial to divide by. -/
structure Modulus where
  /-- The degree of the polynomial. -/
  degree : Nat
  /-- Its terms below the leading one, spread out. -/
  tail : Nat
  /-- Ones at all digits that a product of two remainders can have. -/
  mask : Nat := ones (2 * degree)
  deriving DecidableEq

/-- The modulus `X ^ degree + ∑ X ^ i` over the given exponents `i`. -/
def Modulus.ofExponents (degree : Nat) (lower : List Nat) : Modulus where
  degree := degree
  tail := lower.foldl (fun t i => t + 1 <<< (10 * i)) 0

/-- Moves the digits from `degree` on down by `X ^ degree = tail`.  The number keeps its
remainder, and its degree sinks by that of the modulus less that of the tail. -/
def Modulus.fold (M : Modulus) (s : Nat) : Nat :=
  let w := 10 * M.degree
  let high := s >>> w
  ((s ^^^ high <<< w) + high * M.tail) &&& M.mask

/-- The product of two remainders.  Folding twice is enough as long as the tail has at most
half the degree of the modulus. -/
def Modulus.mul (M : Modulus) (s t : Nat) : Nat :=
  M.fold (M.fold (s * t &&& M.mask))

end EcdsaVectors.Spread
