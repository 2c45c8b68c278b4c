/-
Climbing to the `k`-th stage by the binary digits of `k`.

Powers and multiples have in common that the stage `2 * m` is made from the stage `m` by
doubling and the stage `m + 1` by one more step.  The ladder reads the digits of `k` from the
highest on and doubles once for each, with a step after it where the digit is one.

`ladder_induction` is all that need be known of it: what holds of the start as stage `0`, and
is kept by doubling and stepping, holds of the end as stage `k`.  In particular it reaches the
stage `k` of every sequence on which doubling and stepping do what their names say
(`ladder_eq`).
-/
namespace EcdsaVectors

variable {α : Type}

/-- The stage reached by the last `b` binary digits of `k`. -/
def climb (double step : α → α) (start : α) : (b k : Nat) → α
  | 0, _ => start
  | b + 1, k =>
    let x := double (climb double step start b (k >>> 1))
    if k % 2 = 1 then step x else x

/-- The stage reached by all binary digits of `k`. -/
def ladder (double step : α → α) (start : α) (k : Nat) : α :=
  climb double step start (k.log2 + 1) k

theorem climb_induction {double step : α → α} {start : α} {motive : α → Nat → Prop}
    (h0 : motive start 0) (hd : ∀ x m, motive x m → motive (double x) (2 * m))
    (hs : ∀ x m, motive x m → motive (step x) (m + 1)) (b k : Nat) (hk : k >>> b = 0) :
    motive (climb double step start b k) k := by
  induction b generalizing k with
  | zero => rwa [show k = 0 from hk]
  | succ b ih =>
    have hb : (k >>> 1) >>> b = 0 := by rw [← Nat.shiftRight_add, Nat.add_comm, hk]
    have hx := hd _ _ (ih _ hb)
    have hh : k >>> 1 = k / 2 := rfl
    rw [climb]
    split
    · exact Eq.subst (motive := motive _) (by omega) (hs _ _ hx)
    · exact Eq.subst (motive := motive _) (by omega) hx

theorem ladder_induction {double step : α → α} {start : α} {motive : α → Nat → Prop}
    (h0 : motive start 0) (hd : ∀ x m, motive x m → motive (double x) (2 * m))
    (hs : ∀ x m, motive x m → motive (step x) (m + 1)) (k : Nat) :
    motive (ladder double step start k) k := by
  -- above its highest bit a number is zero
  have htop : k >>> (k.log2 + 1) = 0 := Nat.shiftRight_eq_zero _ _ Nat.lt_log2_self
  exact climb_induction h0 hd hs _ _ htop

theorem ladder_eq {double step : α → α} {f : Nat → α} (hd : ∀ m, double (f m) = f (2 * m))
    (hs : ∀ m, step (f m) = f (m + 1)) (k : Nat) : ladder double step (f 0) k = f k := by
  refine ladder_induction (motive := fun x m => x = f m) rfl ?_ ?_ k
  · rintro x m rfl
    exact hd m
  · rintro x m rfl
    exact hs m

end EcdsaVectors
