/-
Numbers that stand for the elements of a field.

The operations of a `Field` are operations on natural numbers.  A `Field.Realization` is a
field in the sense of algebra whose elements are written as such numbers, so that the
operations on numbers are those of the field (`num_add` and so on).  Powers and inverses are
not among what is asked for; they follow (`num_pow`, `num_inv`).

The integers modulo a prime realize the prime field (`Field.primeRealization`), which also
settles the inverse modulo the order of a domain (`Domain.scalarInverse_cast`).
-/
import Mathlib.Data.ZMod.Basic
import Mathlib.FieldTheory.Finite.Basic
import EcdsaVectors.Ecdsa

/-- A field in the sense of algebra, by another name than that of the kinds of fields. -/
abbrev AlgebraicField (K : Type) := Field K

namespace EcdsaVectors

/-- Whether a number is an element of a field: it stands for an element that is in range. -/
def Field.Mem (F : Field) (a : Nat) : Prop := F.ofNat? (F.toNat a) = some a

/-- A field whose elements are written as numbers. -/
structure Field.Realization (F : Field) (K : Type) [AlgebraicField K] [Fintype K] where
  /-- The number that stands for an element. -/
  num : K → Nat
  injective : Function.Injective num
  card : Fintype.card K = F.card
  mem {a : Nat} : F.Mem a ↔ ∃ x, num x = a
  zero : num 0 = 0
  one : num 1 = 1
  add (x y : K) : F.add (num x) (num y) = num (x + y)
  neg (x : K) : F.neg (num x) = num (-x)
  mul (x y : K) : F.mul (num x) (num y) = num (x * y)

namespace Field.Realization

variable {F : Field} {K : Type} [AlgebraicField K] [Fintype K] (R : F.Realization K) (x y : K)

@[simp] lemma num_inj {x y : K} : R.num x = R.num y ↔ x = y := R.injective.eq_iff

@[simp] lemma num_eq_zero {x : K} : R.num x = 0 ↔ x = 0 := by
  rw [← R.zero, num_inj]

@[simp] lemma num_add : F.add (R.num x) (R.num y) = R.num (x + y) := R.add x y

@[simp] lemma num_neg : F.neg (R.num x) = R.num (-x) := R.neg x

@[simp] lemma num_mul : F.mul (R.num x) (R.num y) = R.num (x * y) := R.mul x y

@[simp] lemma num_sub : F.sub (R.num x) (R.num y) = R.num (x - y) := by
  rw [Field.sub, num_neg, num_add, sub_eq_add_neg]

@[simp] lemma num_square : F.square (R.num x) = R.num (x ^ 2) := by
  rw [Field.square, num_mul, sq]

/-- Powers are made by squaring and multiplying. -/
lemma num_pow (k : Nat) : F.pow (R.num x) k = R.num (x ^ k) := by
  rw [Field.pow, ← R.one, ← pow_zero x]
  refine ladder_eq (f := fun k => R.num (x ^ k)) (fun m => ?_) (fun m => ?_) k
  · rw [num_square, ← pow_mul, mul_comm]
  · rw [num_mul, pow_succ']

/-- The power to the size of the field less two is the inverse. -/
lemma num_inv {x : K} (hx : x ≠ 0) : F.inv (R.num x) = R.num x⁻¹ := by
  have hcard : 1 < Fintype.card K := Fintype.one_lt_card
  have hpow : x ^ (Fintype.card K - 2) * x = 1 := by
    rw [← pow_succ, show Fintype.card K - 2 + 1 = Fintype.card K - 1 by omega]
    exact FiniteField.pow_card_sub_one_eq_one x hx
  rw [Field.inv, num_pow, ← R.card, num_inj]
  exact eq_inv_of_mul_eq_one_left hpow

lemma mem_num : F.Mem (R.num x) := R.mem.2 ⟨x, rfl⟩

end Field.Realization

/-! ## The integers modulo a prime -/

/-- The elements of a prime field are the numbers below the prime. -/
lemma Field.mem_prime {p a : Nat} : (Field.prime p).Mem a ↔ a < p := by
  constructor
  · intro h
    exact (Option.ite_none_right_eq_some.1 h).1
  · intro h
    exact if_pos h

instance Field.neZero_prime (p : Nat) [hp : Fact p.Prime] : NeZero p := ⟨hp.out.ne_zero⟩

/-- The integers modulo a prime, each written as the least number that stands for it. -/
def Field.primeRealization (p : Nat) [Fact p.Prime] : (Field.prime p).Realization (ZMod p) where
  num := ZMod.val
  injective := ZMod.val_injective p
  card := ZMod.card p
  mem := by
    intro a
    rw [mem_prime]
    constructor
    · intro ha
      exact ⟨a, ZMod.val_cast_of_lt ha⟩
    · rintro ⟨x, rfl⟩
      exact x.val_lt
  zero := ZMod.val_zero
  one := ZMod.val_one p
  add x y := (ZMod.val_add x y).symm
  neg x := (ZMod.neg_val' x).symm
  mul x y := (ZMod.val_mul x y).symm

/-- A positive number below the order of a domain does not vanish modulo the order. -/
lemma Domain.cast_ne_zero {D : Domain} {k : Nat} (hk : 0 < k) (hlt : k < D.order) :
    (k : ZMod D.order) ≠ 0 := by
  rw [Ne, ZMod.natCast_eq_zero_iff]
  exact Nat.not_dvd_of_pos_of_lt hk hlt

/-- The inverse modulo the order of a domain. -/
lemma Domain.scalarInverse_cast {D : Domain} (hD : D.order.Prime) {s : Nat} (hs : 0 < s)
    (hlt : s < D.order) : (D.scalarInverse s : ZMod D.order) = (s : ZMod D.order)⁻¹ := by
  have : Fact D.order.Prime := ⟨hD⟩
  have hinv : (Field.prime D.order).inv (s : ZMod D.order).val = (s : ZMod D.order)⁻¹.val :=
    (Field.primeRealization D.order).num_inv (Domain.cast_ne_zero hs hlt)
  rw [ZMod.val_cast_of_lt hlt] at hinv
  rw [Domain.scalarInverse, hinv, ZMod.natCast_zmod_val]

end EcdsaVectors
