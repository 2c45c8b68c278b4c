/-
The bits of a string.

A string of octets is a string of bits, of each octet the highest bit first.  Both stand for one
number (`ofBits_bits`).  The first bits of a string, or all of them if there are no more, stand for
the number without the others (`ofBits_take`), and so the first octets can be taken before the
bits are (`cutToBits_eq`).
-/
import EcdsaVectors.Proofs.Octets.Width
namespace EcdsaVectors.Octets

/-- The bits of a string, of each octet the highest first. -/
def bits (b : Octets) : List Bool :=
  b.flatMap fun o => (List.range 8).map fun i => o.toNat.testBit (7 - i)

/-- The number that a string of bits stands for, the highest first. -/
def ofBits : List Bool → Nat
  | [] => 0
  | b :: l => b.toNat * 2 ^ l.length + ofBits l

/-- The number of the first `n` bits of a string, or of all of them.  Whole octets are left out
first, and then the bits by which there are still too many. -/
def cutToBits (n : Nat) (b : Octets) : Nat :=
  let c : Octets := if n < 8 * b.length then b.take ((n + 7) / 8) else b
  if n < 8 * c.length then c.value >>> (8 - n % 8) else c.value

lemma bits_cons (o : UInt8) (b : Octets) :
    bits (o :: b) = (List.range 8).map (fun i => o.toNat.testBit (7 - i)) ++ bits b :=
  List.flatMap_cons

@[simp] lemma length_bits (b : Octets) : (bits b).length = 8 * b.length := by
  induction b with
  | nil => rfl
  | cons o b ih =>
    rw [bits_cons, List.length_append, ih, List.length_map, List.length_range, List.length_cons]
    omega

lemma ofBits_append (l m : List Bool) : ofBits (l ++ m) = ofBits l * 2 ^ m.length + ofBits m := by
  induction l with
  | nil => simp [ofBits]
  | cons b l ih =>
    rw [List.cons_append, ofBits, ofBits, ih, List.length_append, Nat.pow_add, Nat.add_mul,
      Nat.mul_assoc, Nat.add_assoc]

lemma ofBits_lt (l : List Bool) : ofBits l < 2 ^ l.length := by
  induction l with
  | nil => exact Nat.one_pos
  | cons b l ih =>
    have hb : b.toNat ≤ 1 := b.toNat_le
    calc ofBits (b :: l) = b.toNat * 2 ^ l.length + ofBits l := rfl
      _ < 1 * 2 ^ l.length + 2 ^ l.length :=
        Nat.add_lt_add_of_le_of_lt (Nat.mul_le_mul_right _ hb) ih
      _ = 2 ^ (b :: l).length := by rw [List.length_cons, Nat.pow_succ]; omega

/-- The first bits stand for the number without the others. -/
lemma ofBits_take (n : Nat) (l : List Bool) :
    ofBits (l.take n) = ofBits l >>> (l.length - n) := by
  have hlt : ofBits (l.drop n) < 2 ^ (l.length - n) := by
    simpa using ofBits_lt (l.drop n)
  -- the bits that are left out are a remainder
  have hsplit : ofBits l = ofBits (l.take n) * 2 ^ (l.length - n) + ofBits (l.drop n) := by
    conv_lhs => rw [← List.take_append_drop n l]
    rw [ofBits_append, List.length_drop]
  rw [Nat.shiftRight_eq_div_pow, hsplit, mul_add_div_of_lt hlt]

/-- The bits of an octet stand for it. -/
lemma ofBits_octet (o : UInt8) :
    ofBits ((List.range 8).map fun i => o.toNat.testBit (7 - i)) = o.toNat := by
  have h : ∀ n : Fin 256, ofBits ((List.range 8).map fun i => n.val.testBit (7 - i)) = n.val := by
    decide +kernel
  exact h ⟨o.toNat, o.toNat_lt⟩

/-- **A string and its bits stand for one number.** -/
lemma ofBits_bits (b : Octets) : ofBits (bits b) = b.value := by
  induction b with
  | nil => rfl
  | cons o b ih =>
    rw [bits_cons, ofBits_append, ofBits_octet, ih, length_bits, Nat.pow_mul, value_cons]

/-- The first bits of a string. -/
lemma ofBits_take_bits (n : Nat) (b : Octets) :
    ofBits ((bits b).take n) = b.value >>> (8 * b.length - n) := by
  rw [ofBits_take, ofBits_bits, length_bits]

/-- Octets and then bits can be left out. -/
lemma cutToBits_eq (n : Nat) (b : Octets) : cutToBits n b = ofBits ((bits b).take n) := by
  rw [ofBits_take_bits, cutToBits]
  by_cases h : n < 8 * b.length
  · have hlength : (b.take ((n + 7) / 8)).length = (n + 7) / 8 := by
      rw [List.length_take]
      omega
    simp only [if_pos h, hlength, value_take]
    by_cases hrest : n < 8 * ((n + 7) / 8)
    · rw [if_pos hrest, ← Nat.shiftRight_add]
      congr 1
      omega
    · rw [if_neg hrest]
      congr 1
      omega
  · have hzero : 8 * b.length - n = 0 := by omega
    simp only [if_neg h, hzero, Nat.shiftRight_zero]

end EcdsaVectors.Octets
