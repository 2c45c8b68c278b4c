/-
Widening a string in a buffer.

A string is widened by copying it to the end of a buffer of zeros.  The place to copy it to is
found by a subtraction, and there must be as many octets from there on as are copied.  Each
step of this could miss the buffer; `fillEnd` takes them one by one and fails where one does.

* `fillEnd_eq`: no step misses the buffer, whatever the string is, and what comes out of it is
  the string that `padTo?` gives, or none;
* `Trimmed.widens`: for a string without zeros in front the test of its length is a test of its
  number, and its octets are found again.
-/
import EcdsaVectors.Proofs.Octets.Width
namespace EcdsaVectors

/-- What can go wrong where octets are copied into a buffer. -/
inductive CopyFault where
  /-- The place lies before the beginning of the buffer. -/
  | beforeStart
  /-- The place lies behind the end of the buffer. -/
  | behindEnd
  /-- The octets that are copied are more or fewer than those from the place on. -/
  | otherLength
  deriving DecidableEq, Repr

namespace Octets

/-- The place that is `k` octets before the end of a buffer. -/
def placeFromEnd (out : Octets) (k : Nat) : Except CopyFault Nat :=
  if k ≤ out.length then .ok (out.length - k) else .error .beforeStart

/-- The buffer with its octets from the place `i` on replaced by as many others. -/
def replaceFrom (out : Octets) (i : Nat) (b : Octets) : Except CopyFault Octets :=
  if out.length < i then .error .behindEnd
  else if (out.drop i).length ≠ b.length then .error .otherLength
  else .ok (out.take i ++ b)

/-- The string copied to the end of a buffer of `w` zeros, or none if it is longer than that. -/
def fillEnd (w : Nat) (b : Octets) : Except CopyFault (Option Octets) :=
  let out : Octets := List.replicate w 0
  if out.length < b.length then .ok none
  else do
    let i ← out.placeFromEnd b.length
    let filled ← out.replaceFrom i b
    pure (some filled)

/-- What widening a string to `w` octets comes to. -/
structure Widens (w : Nat) (b : Octets) : Prop where
  /-- Nothing goes wrong in the buffer. -/
  inBounds : fillEnd w b = .ok (padTo? w b)
  /-- The string is too long just when its number is too large. -/
  tooLong : padTo? w b = none ↔ 256 ^ w ≤ b.value
  /-- Otherwise there are `w` octets that stand for the number, and the string is what is left
  of them without the zeros in front. -/
  fits : b.value < 256 ^ w →
    ∃ c, padTo? w b = some c ∧ c.length = w ∧ c.value = b.value ∧ c.trim = b

variable {w : Nat} {b c : Octets}

/-- **A string is widened within the bounds of the buffer.** -/
theorem fillEnd_eq (w : Nat) (b : Octets) : fillEnd w b = .ok (padTo? w b) := by
  unfold fillEnd padTo?
  by_cases h : b.length ≤ w
  · -- the subtraction does not go below zero, and leaves just as many octets as are copied
    have hplace : placeFromEnd (List.replicate w 0) b.length = .ok (w - b.length) := by
      simp [placeFromEnd, h]
    have hreplace : replaceFrom (List.replicate w 0) (w - b.length) b =
        .ok (List.replicate (w - b.length) 0 ++ b) := by
      have hlength : w - (w - b.length) = b.length := by omega
      simp [replaceFrom, hlength]
    simp only [List.length_replicate, Nat.not_lt.2 h, hplace, h, if_true, if_false]
    change (do pure (some (← replaceFrom (List.replicate w 0) (w - b.length) b))) = _
    rw [hreplace]
    rfl
  · simp [h, Nat.lt_of_not_le h]

namespace Trimmed

lemma padTo?_eq_none_iff (h : b.Trimmed) : padTo? w b = none ↔ 256 ^ w ≤ b.value := by
  rw [← Nat.not_lt, ← h.length_le_iff, padTo?]
  simp

/-- The zeros that are put in front are those that are taken away. -/
lemma trim_padTo? (h : b.Trimmed) (hc : padTo? w b = some c) : c.trim = b :=
  (trimmed_trim c).eq_of_value_eq h (by rw [value_trim, value_padTo? hc])

/-- **A string without zeros in front is widened just when its number fits.** -/
theorem widens (h : b.Trimmed) (w : Nat) : Widens w b where
  inBounds := fillEnd_eq w b
  tooLong := h.padTo?_eq_none_iff
  fits := by
    intro hb
    cases hc : padTo? w b with
    | none => exact absurd hb (Nat.not_lt.2 (h.padTo?_eq_none_iff.1 hc))
    | some c => exact ⟨c, rfl, length_padTo? hc, value_padTo? hc, h.trim_padTo? hc⟩

end Trimmed

end Octets

end EcdsaVectors
