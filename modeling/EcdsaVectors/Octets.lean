/-
Octet strings as unsigned integers, most significant octet first.

A vector file writes every number as a string of octets.  Several strings stand for one number,
since zeros in front change nothing; `trim` picks the shortest of them, and zero is the empty
string.  Where a fixed width is wanted, `padTo?` puts the zeros back, or fails when the string
is too long for it.
-/
namespace EcdsaVectors

/-- A string of octets. -/
abbrev Octets := List UInt8

namespace Octets

/-- The integer that a string stands for. -/
def value (b : Octets) : Nat :=
  b.foldl (fun n o => n * 256 + o.toNat) 0

/-- The string without the zeros in front. -/
def trim (b : Octets) : Octets :=
  b.dropWhile (· == 0)

/-- The last `w` octets of the integer `n`, zeros in front included. -/
def fixed : Nat → Nat → Octets
  | 0, _ => []
  | w + 1, n => UInt8.ofNat (n >>> (8 * w)) :: fixed w n

/-- The shortest string that stands for `n`.  The octets counted are one too many for zero
only, and `trim` takes that one away. -/
def ofNat (n : Nat) : Octets :=
  (fixed (n.log2 / 8 + 1) n).trim

/-- The string widened to `w` octets by zeros in front; `none` if it is longer than that. -/
def padTo? (w : Nat) (b : Octets) : Option Octets :=
  if b.length ≤ w then some (List.replicate (w - b.length) 0 ++ b) else none

/-- A string without zeros in front. -/
def Trimmed (b : Octets) : Prop := b.head? ≠ some 0

instance (b : Octets) : Decidable b.Trimmed := inferInstanceAs (Decidable (_ ≠ _))

/-! ## Zeros in front -/

@[simp] theorem trim_cons_zero (b : Octets) : trim (0 :: b) = trim b := rfl

theorem trim_cons {o : UInt8} (h : o ≠ 0) (b : Octets) : trim (o :: b) = o :: b := by
  simp [trim, h]

/-- No zero is left in front. -/
theorem trimmed_trim (b : Octets) : b.trim.Trimmed := by
  induction b with
  | nil => simp [trim, Trimmed]
  | cons o b ih =>
    by_cases h : o = 0
    · subst h
      exact ih
    · rw [trim_cons h]
      simpa [Trimmed] using h

/-- Where there is no zero in front, none is taken away. -/
theorem trim_eq_self {b : Octets} (h : b.Trimmed) : b.trim = b := by
  cases b with
  | nil => rfl
  | cons o b => exact trim_cons (by simpa [Trimmed] using h) b

/-! ## Lengths -/

@[simp] theorem length_fixed (w n : Nat) : (fixed w n).length = w := by
  induction w with
  | zero => rfl
  | succ w ih => simp [fixed, ih]

/-- A string that can be widened comes to the wanted width exactly. -/
theorem length_padTo? {w : Nat} {b c : Octets} (h : padTo? w b = some c) : c.length = w := by
  unfold padTo? at h
  split at h
  · next hb =>
    obtain rfl := Option.some.inj h
    rw [List.length_append, List.length_replicate]
    exact Nat.sub_add_cancel hb
  · contradiction

end Octets

end EcdsaVectors
