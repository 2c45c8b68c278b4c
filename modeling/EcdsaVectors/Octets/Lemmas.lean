/-
The numbers that strings of octets stand for.

* `value_append`: a string put behind another shifts its number by as many octets;
* `value_lt`: a string of `k` octets stands for a number below `256 ^ k`;
* `value_trim`, `value_padTo?`: zeros in front do not change the number;
* `value_fixed`: `fixed w n` stands for `n` cut to `w` octets.
-/
import Mathlib.Algebra.Ring.Nat
import EcdsaVectors.Octets
namespace EcdsaVectors.Octets

@[simp] theorem value_nil : value [] = 0 := rfl

/-- Reading on from a number that has been read already. -/
private theorem foldl_value (b : Octets) (n : Nat) :
    b.foldl (fun n o => n * 256 + o.toNat) n = n * 256 ^ b.length + b.value := by
  induction b generalizing n with
  | nil => simp
  | cons o b ih =>
    have h : value (o :: b) = o.toNat * 256 ^ b.length + value b := by
      simpa [value] using ih o.toNat
    rw [List.foldl_cons, ih, h, List.length_cons, Nat.pow_succ']
    rw [Nat.add_mul, Nat.mul_assoc, Nat.add_assoc]

/-- A string put behind another shifts its number by as many octets. -/
theorem value_append (a b : Octets) : (a ++ b).value = a.value * 256 ^ b.length + b.value := by
  rw [value, List.foldl_append]
  exact foldl_value b a.value

theorem value_cons (o : UInt8) (b : Octets) :
    value (o :: b) = o.toNat * 256 ^ b.length + b.value := by
  simpa [value] using value_append [o] b

@[simp] theorem value_cons_zero (b : Octets) : value (0 :: b) = b.value := by
  simp [value_cons]

@[simp] theorem value_replicate_zero (k : Nat) : value (List.replicate k 0) = 0 := by
  induction k with
  | zero => rfl
  | succ k ih => rw [List.replicate_succ, value_cons_zero, ih]

/-- A string of `k` octets stands for a number below `256 ^ k`. -/
theorem value_lt (b : Octets) : b.value < 256 ^ b.length := by
  induction b with
  | nil => exact Nat.one_pos
  | cons o b ih =>
    have ho : o.toNat + 1 ≤ 256 := o.toNat_lt
    calc value (o :: b) = o.toNat * 256 ^ b.length + value b := value_cons o b
      _ < (o.toNat + 1) * 256 ^ b.length := by rw [Nat.succ_mul]; exact Nat.add_lt_add_left ih _
      _ ≤ 256 * 256 ^ b.length := Nat.mul_le_mul_right _ ho
      _ = 256 ^ (o :: b).length := (Nat.pow_succ' ..).symm

/-- Zeros in front do not count. -/
@[simp] theorem value_trim (b : Octets) : b.trim.value = b.value := by
  induction b with
  | nil => rfl
  | cons o b ih =>
    by_cases h : o = 0
    · subst h
      rw [trim_cons_zero, value_cons_zero, ih]
    · rw [trim_cons h]

theorem value_padTo? {w : Nat} {b c : Octets} (h : padTo? w b = some c) : c.value = b.value := by
  unfold padTo? at h
  split at h
  · obtain rfl := Option.some.inj h
    simp [value_append]
  · contradiction

/-- The octets kept stand for what is left of the number at their width. -/
theorem value_fixed (w n : Nat) : (fixed w n).value = n % 256 ^ w := by
  induction w with
  | zero => rw [pow_zero, Nat.mod_one]; rfl
  | succ w ih =>
    have hs : n >>> (8 * w) = n / 256 ^ w := by rw [Nat.shiftRight_eq_div_pow, Nat.pow_mul]
    have ho : (UInt8.ofNat (n / 256 ^ w)).toNat = n / 256 ^ w % 256 := UInt8.toNat_ofNat'
    calc (fixed (w + 1) n).value
        = n / 256 ^ w % 256 * 256 ^ w + n % 256 ^ w := by
          rw [fixed, value_cons, length_fixed, ih, hs, ho]
      _ = n % (256 ^ w * 256) := by rw [Nat.mod_mul, Nat.add_comm, Nat.mul_comm (256 ^ w)]
      _ = n % 256 ^ (w + 1) := by rw [Nat.pow_succ]

end EcdsaVectors.Octets
