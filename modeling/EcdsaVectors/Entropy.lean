/-
The source of random numbers of a backend.

It is a sequence of numbers with a mark how far it has been read.  A source can be out of
order, and then gives nothing.  What a theorem says of all sequences, it says of every random
choice.
-/
namespace EcdsaVectors

/-- A source of random numbers. -/
structure Entropy where
  /-- The numbers of the source in order. -/
  numbers : Nat → Nat
  /-- How many of them have been drawn. -/
  drawn : Nat := 0
  /-- Whether the source gives numbers at all. -/
  working : Bool := true

namespace Entropy

/-- Draws a positive number below `n`. -/
def draw (E : Entropy) (n : Nat) : Option Nat × Entropy :=
  if E.working then
    (some (1 + E.numbers E.drawn % (n - 1)), { E with drawn := E.drawn + 1 })
  else (none, E)

theorem draw_pos {E : Entropy} {n k : Nat} (h : (E.draw n).1 = some k) : 0 < k := by
  simp only [draw] at h
  split at h
  · obtain rfl := Option.some.inj h; omega
  · contradiction

theorem draw_lt {E : Entropy} {n k : Nat} (hn : 1 < n) (h : (E.draw n).1 = some k) : k < n := by
  have := Nat.mod_lt (E.numbers E.drawn) (show n - 1 > 0 by omega)
  simp only [draw] at h
  split at h
  · obtain rfl := Option.some.inj h; omega
  · contradiction

/-- Each positive number below `n` is drawn from some source. -/
theorem exists_draw {n k : Nat} (hk : 0 < k) (hn : k < n) :
    ∃ E : Entropy, (E.draw n).1 = some k := by
  refine ⟨{ numbers := fun _ => k - 1 }, congrArg some ?_⟩
  have hmod : (k - 1) % (n - 1) = k - 1 := Nat.mod_eq_of_lt (by omega)
  rw [hmod]
  omega

end Entropy

end EcdsaVectors
