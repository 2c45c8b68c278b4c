/-
Strings without zeros in front, and the width that they need.

A string without zeros in front is determined by its number (`Trimmed.eq_of_value_eq`), so
that it is the string that `ofNat` makes of the number.  It has at most `w` octets just when
the number is below `256 ^ w` (`Trimmed.length_le_iff`); a test of the length is a test of the
number, then, and a string that passes it is widened to the `w` octets of the number
(`padTo?_ofNat`).
-/
import Mathlib.Data.Nat.Log
import Mathlib.Tactic.Lemma
import EcdsaVectors.Octets.Lemmas
namespace EcdsaVectors.Octets

lemma mul_add_div_of_lt {q r n : Nat} (h : r < n) : (q * n + r) / n = q := by
  rw [Nat.mul_comm, Nat.mul_add_div (Nat.zero_lt_of_lt h), Nat.div_eq_of_lt h, Nat.add_zero]

/-- Two strings of one length that stand for one number are the same. -/
lemma eq_of_value_eq {a b : Octets} (hl : a.length = b.length) (hv : a.value = b.value) :
    a = b := by
  induction a generalizing b with
  | nil => exact (List.length_eq_zero_iff.1 hl.symm).symm
  | cons o a ih =>
    cases b with
    | nil => cases hl
    | cons p b =>
      have hl' : a.length = b.length := Nat.succ.inj hl
      have ha : value a < 256 ^ b.length := hl' ▸ value_lt a
      have hb : value b < 256 ^ b.length := value_lt b
      rw [value_cons, value_cons, hl'] at hv
      -- the first octets are the quotients, the rests the remainders
      have ho : o.toNat = p.toNat := by
        rw [← mul_add_div_of_lt (q := o.toNat) ha, hv, mul_add_div_of_lt hb]
      rw [ho] at hv
      rw [UInt8.toNat_inj.1 ho, ih hl' (Nat.add_left_cancel hv)]

namespace Trimmed

variable {a b : Octets} {w : Nat}

/-- The first octet of a string without zeros in front counts. -/
lemma pow_le_value (h : b.Trimmed) (hb : b ≠ []) : 256 ^ (b.length - 1) ≤ b.value := by
  cases b with
  | nil => exact absurd rfl hb
  | cons o b =>
    have ho : o.toNat ≠ 0 := by
      intro h0
      have : o = 0 := UInt8.toNat_inj.1 h0
      exact h (by rw [this, List.head?_cons])
    rw [value_cons]
    have hmul : 1 * 256 ^ b.length ≤ o.toNat * 256 ^ b.length :=
      Nat.mul_le_mul_right _ (Nat.one_le_iff_ne_zero.2 ho)
    simpa using hmul.trans (Nat.le_add_right _ _)

/-- The length of a string without zeros in front tells the size of its number. -/
lemma length_le_iff (h : b.Trimmed) : b.length ≤ w ↔ b.value < 256 ^ w := by
  constructor
  · intro hw
    exact (value_lt b).trans_le (Nat.pow_le_pow_right (by decide) hw)
  · intro hv
    by_contra hw
    have hb : b ≠ [] := by
      rintro rfl
      exact hw (Nat.zero_le w)
    have hle : 256 ^ w ≤ 256 ^ (b.length - 1) :=
      Nat.pow_le_pow_right (by decide) (by omega)
    exact absurd hv (Nat.not_lt.2 (hle.trans (h.pow_le_value hb)))

/-- There is one string without zeros in front for a number. -/
lemma eq_of_value_eq (ha : a.Trimmed) (hb : b.Trimmed) (h : a.value = b.value) : a = b := by
  have hab : a.length ≤ b.length := by
    rw [ha.length_le_iff, h]
    exact value_lt b
  have hba : b.length ≤ a.length := by
    rw [hb.length_le_iff, ← h]
    exact value_lt a
  exact Octets.eq_of_value_eq (Nat.le_antisymm hab hba) h

end Trimmed

/-- The first `w` octets of a string, or all of them, stand for the number without the bits of
the others. -/
lemma value_take (w : Nat) (b : Octets) :
    value (b.take w) = b.value >>> (8 * b.length - 8 * w) := by
  have hb : value (b.drop w) < 256 ^ (b.length - w) := by
    simpa using value_lt (b.drop w)
  -- the octets that are left out are a remainder
  have hsplit : b.value = value (b.take w) * 256 ^ (b.length - w) + value (b.drop w) := by
    conv_lhs => rw [← List.take_append_drop w b]
    rw [value_append, List.length_drop]
  rw [Nat.shiftRight_eq_div_pow, ← Nat.mul_sub, Nat.pow_mul, hsplit,
    show 2 ^ 8 = 256 from rfl, mul_add_div_of_lt hb]

/-! ## The string that is made of a number -/

lemma trimmed_ofNat (n : Nat) : (ofNat n).Trimmed := trimmed_trim _

@[simp] lemma value_ofNat (n : Nat) : (ofNat n).value = n := by
  -- the width is that of all bits of the number
  have hlog : n < 2 ^ (n.log2 + 1) := Nat.lt_log2_self
  have hpow : 2 ^ (n.log2 + 1) ≤ 256 ^ (n.log2 / 8 + 1) := by
    rw [show (256 : Nat) = 2 ^ 8 from rfl, ← Nat.pow_mul]
    exact Nat.pow_le_pow_right (by decide) (by omega)
  rw [ofNat, value_trim, value_fixed, Nat.mod_eq_of_lt (hlog.trans_le hpow)]

lemma ofNat_value (b : Octets) : ofNat b.value = b.trim := by
  refine (trimmed_ofNat _).eq_of_value_eq (trimmed_trim b) ?_
  rw [value_ofNat, value_trim]

lemma ofNat_eq_nil {n : Nat} : ofNat n = [] ↔ n = 0 := by
  constructor
  · intro h
    rw [← value_ofNat n, h, value_nil]
  · rintro rfl
    rfl

lemma trim_fixed {w n : Nat} (h : n < 256 ^ w) : (fixed w n).trim = ofNat n := by
  -- both are trimmed, so the numbers tell
  refine (trimmed_trim _).eq_of_value_eq (trimmed_ofNat n) ?_
  rw [value_trim, value_fixed, Nat.mod_eq_of_lt h, value_ofNat]

lemma padTo?_ofNat (w n : Nat) :
    padTo? w (ofNat n) = if n < 256 ^ w then some (fixed w n) else none := by
  have hw : (ofNat n).length ≤ w ↔ n < 256 ^ w := by
    rw [(trimmed_ofNat n).length_le_iff, value_ofNat]
  unfold padTo?
  by_cases h : n < 256 ^ w
  · rw [if_pos (hw.2 h), if_pos h]
    refine congrArg some (eq_of_value_eq ?_ ?_)
    · rw [List.length_append, List.length_replicate, length_fixed]
      exact Nat.sub_add_cancel (hw.2 h)
    · rw [value_append, value_replicate_zero, value_ofNat, value_fixed, Nat.mod_eq_of_lt h,
        Nat.zero_mul, Nat.zero_add]
  · rw [if_neg (mt hw.1 h), if_neg h]

end EcdsaVectors.Octets
