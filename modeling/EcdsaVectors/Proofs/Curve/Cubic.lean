/-
Cubics without roots.

The elements of the field with `p` elements are the roots of `x^p - x`.  So a root of the cubic
`x³ + ax + b` is a root of `x^p - x` too, and of the remainder that this leaves modulo the
cubic; and no power of this remainder can be one.  Where some power is one, then, there is no
root (`Remainder.Rootless.ne_zero`).

The power that is tried is the one that is one whenever the cubic is irreducible, for then the
remainders are the elements of a field of `p³` elements.
-/
import Mathlib.FieldTheory.Finite.Basic
import Mathlib.Tactic.LinearCombination
import EcdsaVectors.Ladder
namespace EcdsaVectors

/-- The remainder of a polynomial modulo a cubic, by its coefficients. -/
structure Remainder where
  c₀ : Nat
  c₁ : Nat
  c₂ : Nat
  deriving DecidableEq

namespace Remainder

/-- The product modulo `x³ + ax + b`, with coefficients modulo `p`. -/
def mul (p a b : Nat) (f g : Remainder) : Remainder :=
  -- the coefficients of `x³` and `x⁴`, which come back with `-a` and `-b`
  let t := f.c₁ * g.c₂ + f.c₂ * g.c₁
  let u := f.c₂ * g.c₂
  ⟨(f.c₀ * g.c₀ + (p - b) * t) % p,
    (f.c₀ * g.c₁ + f.c₁ * g.c₀ + (p - a) * t + (p - b) * u) % p,
    (f.c₀ * g.c₂ + f.c₁ * g.c₁ + f.c₂ * g.c₀ + (p - a) * u) % p⟩

/-- A power modulo `x³ + ax + b`. -/
def pow (p a b : Nat) (f : Remainder) (k : Nat) : Remainder :=
  ladder (fun g => mul p a b g g) (mul p a b f) ⟨1, 0, 0⟩ k

/-- A power of `x^p - x` is one modulo `x³ + ax + b`. -/
def Rootless (p a b : Nat) : Prop :=
  let f := pow p a b ⟨0, 1, 0⟩ p
  pow p a b ⟨f.c₀, f.c₁ + (p - 1), f.c₂⟩ (p ^ 3 - 1) = ⟨1, 0, 0⟩

instance (p a b : Nat) : Decidable (Rootless p a b) :=
  inferInstanceAs (Decidable (_ = _))

section

variable {p : Nat}

/-- The value of the remainder at an element of the field. -/
def valueAt (f : Remainder) (x : ZMod p) : ZMod p := f.c₀ + f.c₁ * x + f.c₂ * x ^ 2

variable {a b : Nat} (ha : a ≤ p) (hb : b ≤ p) {x : ZMod p} (hx : x ^ 3 + a * x + b = 0)

include ha hb hx

/-- At a root of the cubic, values are multiplied as remainders are. -/
lemma valueAt_mul (f g : Remainder) : (mul p a b f g).valueAt x = f.valueAt x * g.valueAt x := by
  simp only [mul, valueAt]
  push_cast [ZMod.natCast_mod, Nat.cast_sub ha, Nat.cast_sub hb, ZMod.natCast_self]
  linear_combination
    (-(f.c₁ * g.c₂ + f.c₂ * g.c₁ : ZMod p) - f.c₂ * g.c₂ * x) * hx

lemma valueAt_pow (f : Remainder) (k : Nat) : (pow p a b f k).valueAt x = f.valueAt x ^ k := by
  refine ladder_induction (motive := fun (g : Remainder) k => g.valueAt x = f.valueAt x ^ k)
    ?_ ?_ ?_ k
  · simp [valueAt]
  · intro g m hg
    rw [valueAt_mul ha hb hx, hg, ← pow_add, two_mul]
  · intro g m hg
    rw [valueAt_mul ha hb hx, hg, pow_succ']

end

/-- **A cubic modulo which a power of `x^p - x` is one has no root.** -/
theorem Rootless.ne_zero {p a b : Nat} [hp : Fact p.Prime] (h : Rootless p a b) (ha : a ≤ p)
    (hb : b ≤ p) (x : ZMod p) : x ^ 3 + a * x + b ≠ 0 := by
  intro hx
  have hfrobenius : (pow p a b ⟨0, 1, 0⟩ p).valueAt x = x := by
    rw [valueAt_pow ha hb hx]
    simp [valueAt, ZMod.pow_card]
  -- the remainder vanishes at the root, and its powers with it
  have hzero : (Remainder.mk (pow p a b ⟨0, 1, 0⟩ p).c₀ ((pow p a b ⟨0, 1, 0⟩ p).c₁ + (p - 1))
      (pow p a b ⟨0, 1, 0⟩ p).c₂).valueAt x = 0 := by
    rw [valueAt] at hfrobenius ⊢
    push_cast [Nat.cast_sub hp.out.one_le, ZMod.natCast_self]
    linear_combination hfrobenius
  have hpow := congrArg (valueAt · x) h
  have hk : p ^ 3 - 1 ≠ 0 := by
    have := Nat.one_lt_pow (n := 3) (by decide) hp.out.one_lt
    omega
  simp only [valueAt_pow ha hb hx, hzero, zero_pow hk] at hpow
  simp [valueAt] at hpow

end Remainder

end EcdsaVectors
