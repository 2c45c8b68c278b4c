/-
The two kinds of finite fields that carry elliptic curves.

The elements of a prime field are the numbers below the prime.  The elements of a binary field
are the polynomials of a degree below that of the modulus, stored with their coefficients
spread out; to the outside they are the numbers whose binary digits are the coefficients, and
`ofNat?` and `toNat` change between the two.

The inverse is the power to the size of the field less two, so the inverse of zero is zero.
-/
import EcdsaVectors.Field.Spread
import EcdsaVectors.Ladder
namespace EcdsaVectors

/-- A finite field: the integers modulo a prime, or the binary polynomials modulo a polynomial. -/
inductive Field where
  | prime (p : Nat)
  | binary (M : Spread.Modulus)
  deriving DecidableEq

namespace Field

/-- The number of elements. -/
def card : Field → Nat
  | prime p => p
  | binary M => 1 <<< M.degree

/-- The size of the field in bits. -/
def degree : Field → Nat
  | prime p => p.log2 + 1
  | binary M => M.degree

/-- The sum of two elements. -/
def add : Field → Nat → Nat → Nat
  | prime p, a, b => (a + b) % p
  | binary _, a, b => a ^^^ b

/-- The additive inverse of an element. -/
def neg : Field → Nat → Nat
  | prime p, a => (p - a) % p
  | binary _, a => a

/-- The difference of two elements. -/
def sub (F : Field) (a b : Nat) : Nat :=
  F.add a (F.neg b)

/-- The product of two elements. -/
def mul : Field → Nat → Nat → Nat
  | prime p, a, b => a * b % p
  | binary M, a, b => M.mul a b

/-- The square of an element. -/
def square (F : Field) (a : Nat) : Nat :=
  F.mul a a

/-- A power of an element. -/
def pow (F : Field) (a k : Nat) : Nat :=
  ladder F.square (F.mul a) 1 k

/-- The multiplicative inverse of an element. -/
def inv (F : Field) (a : Nat) : Nat :=
  F.pow a (F.card - 2)

/-- The element that a number stands for, if it is in range. -/
def ofNat? : Field → Nat → Option Nat
  | prime p, v => if v < p then some v else none
  | binary M, v => if v < 1 <<< M.degree then some (Spread.ofBits M.degree v) else none

/-- The number that stands for an element. -/
def toNat : Field → Nat → Nat
  | prime _, a => a
  | binary M, a => Spread.toBits M.degree a

theorem toNat_of_ofNat? {F : Field} {v a : Nat} (h : F.ofNat? v = some a) : F.toNat a = v := by
  cases F with
  | prime p =>
    obtain ⟨-, ha⟩ := Option.ite_none_right_eq_some.1 h
    exact (Option.some.inj ha).symm
  | binary M =>
    obtain ⟨hv, ha⟩ := Option.ite_none_right_eq_some.1 h
    obtain rfl := Option.some.inj ha
    exact Spread.toBits_ofBits (Nat.shiftRight_eq_zero _ _ (by rwa [Nat.one_shiftLeft] at hv))

theorem isSome_ofNat?_iff {F : Field} {v : Nat} : (F.ofNat? v).isSome ↔ v < F.card := by
  cases F <;> simp [ofNat?, card]

end Field

end EcdsaVectors
