/-
Certificates of primality.

To show that `n` is prime it is enough to factor a part of `n - 1` that exceeds the root of
`n`: if some number has an order modulo each prime divisor of `n` that is a multiple of this
part, then each prime divisor exceeds the root of `n`, and there is only one.  Such a number
is given by an entry of a certificate, with the prime powers of the part; the primes are those
of earlier entries (`prime_of_certificate`).  Powers are made as they are in the prime fields,
so that a certificate can be checked by computation.
-/
import Mathlib.Data.Nat.GCD.BigOperators
import EcdsaVectors.Proofs.Field.Realization
namespace EcdsaVectors

/-- The power in a prime field is one of numbers, whether or not the modulus is prime. -/
lemma Field.pow_prime {n : Nat} (hn : 1 < n) (a k : Nat) :
    (Field.prime n).pow a k = a ^ k % n := by
  have hone : 1 = a ^ 0 % n := by rw [pow_zero, Nat.mod_eq_of_lt hn]
  rw [Field.pow, hone]
  refine ladder_eq (f := fun k => a ^ k % n) (fun m => ?_) (fun m => ?_) k
  · change a ^ m % n * (a ^ m % n) % n = a ^ (2 * m) % n
    rw [← Nat.mul_mod, ← pow_add, two_mul]
  · change a * (a ^ m % n) % n = a ^ (m + 1) % n
    rw [Nat.mul_mod_mod, pow_succ']

/-- What shows that a number is prime. -/
structure PrimeEntry where
  number : Nat
  base : Nat
  /-- Primes with exponents, whose powers make up the part of the number less one. -/
  powers : List (Nat × Nat)

namespace PrimeEntry

variable (e : PrimeEntry)

/-- The part of the number less one that is factored. -/
def part : Nat := (e.powers.map fun f => f.1 ^ f.2).prod

/-- The conditions of an entry, when some primes are known already. -/
def Holds (known : List Nat) : Prop :=
  1 < e.number ∧ e.number < (e.part + 1) ^ 2 ∧
    (e.powers.map fun f => f.1 ^ f.2).Pairwise Nat.Coprime ∧
    (Field.prime e.number).pow e.base (e.number - 1) = 1 ∧
    ∀ f ∈ e.powers, f.1 ∈ known ∧ f.1 ^ f.2 ∣ e.number - 1 ∧
      ((Field.prime e.number).pow e.base ((e.number - 1) / f.1) - 1).gcd e.number = 1

instance (known : List Nat) : Decidable (e.Holds known) :=
  inferInstanceAs (Decidable (_ ∧ _))

end PrimeEntry

/-- A certificate: each entry holds when the primes of those before it are known. -/
def Certificate (known : List Nat) : List PrimeEntry → Prop
  | [] => True
  | e :: es => e.Holds known ∧ Certificate (e.number :: known) es

instance Certificate.decidable : (known : List Nat) → (es : List PrimeEntry) →
    Decidable (Certificate known es)
  | _, [] => inferInstanceAs (Decidable True)
  | known, e :: es =>
    have := Certificate.decidable (e.number :: known) es
    inferInstanceAs (Decidable (_ ∧ _))

/-! ## Orders -/

lemma prod_dvd_of_coprime {l : List Nat} {m : Nat} (hl : l.Pairwise Nat.Coprime)
    (h : ∀ a ∈ l, a ∣ m) : l.prod ∣ m := by
  induction l with
  | nil => exact one_dvd m
  | cons a l ih =>
    obtain ⟨ha, hl⟩ := List.pairwise_cons.1 hl
    have hhead : a ∣ m := h a List.mem_cons_self
    have htail : l.prod ∣ m := ih hl fun b hb => h b (List.mem_cons_of_mem a hb)
    rw [List.prod_cons]
    exact Nat.Coprime.mul_dvd_of_dvd_of_dvd (Nat.coprime_list_prod_right_iff.2 ha) hhead htail

lemma pow_dvd_of_not_dvd_div {q k o m : Nat} (hq : q.Prime) (ho : o ∣ m)
    (hno : ¬o ∣ m / q) (hqk : q ^ k ∣ m) : q ^ k ∣ o := by
  obtain ⟨t, rfl⟩ := ho
  -- the prime divides no more of the number than its divisor has
  have hqt : ¬q ∣ t := by
    rintro ⟨t, rfl⟩
    apply hno
    rw [show o * (q * t) = q * (o * t) by ring, Nat.mul_div_cancel_left _ hq.pos]
    exact Nat.dvd_mul_right o t
  have hcoprime : (q ^ k).Coprime t := ((Nat.Prime.coprime_iff_not_dvd hq).2 hqt).pow_left k
  exact hcoprime.dvd_of_dvd_mul_right hqk

namespace PrimeEntry

variable {e : PrimeEntry} {known : List Nat}

lemma cast_pow (hn : 1 < e.number) {p : Nat} (hp : p ∣ e.number) (k : Nat) :
    ((Field.prime e.number).pow e.base k : ZMod p) = (e.base : ZMod p) ^ k := by
  rw [Field.pow_prime hn, ← Nat.cast_pow, ZMod.natCast_eq_natCast_iff]
  exact (Nat.mod_modEq _ _).of_dvd hp

/-- A power of the base that is one modulo a prime divisor of the number shows when it is
compared with the number. -/
lemma dvd_gcd_of_pow_eq_one (hn : 1 < e.number) {p : Nat} [Fact p.Prime] (hp : p ∣ e.number)
    {k : Nat} (hk : (e.base : ZMod p) ^ k = 1) :
    p ∣ ((Field.prime e.number).pow e.base k - 1).gcd e.number := by
  have hcast := (cast_pow hn hp k).trans hk
  have hpos : 0 < (Field.prime e.number).pow e.base k := by
    rcases Nat.eq_zero_or_pos ((Field.prime e.number).pow e.base k) with h0 | h0
    · rw [h0, Nat.cast_zero] at hcast
      exact absurd hcast zero_ne_one
    · exact h0
  refine Nat.dvd_gcd ?_ hp
  rw [← ZMod.natCast_eq_zero_iff, Nat.cast_sub hpos, hcast, Nat.cast_one, sub_self]

/-- Modulo a prime divisor of the number, the part divides the order of the base. -/
lemma Holds.part_dvd (h : e.Holds known) (hknown : ∀ q ∈ known, q.Prime) {p : Nat}
    [Fact p.Prime] (hp : p ∣ e.number) : e.part ∣ orderOf (e.base : ZMod p) := by
  obtain ⟨hn, -, hcoprime, hone, hpowers⟩ := h
  have horder : orderOf (e.base : ZMod p) ∣ e.number - 1 := by
    refine orderOf_dvd_of_pow_eq_one ?_
    rw [← cast_pow hn hp, hone, Nat.cast_one]
  -- each prime power of the part divides the order, and they are coprime
  refine prod_dvd_of_coprime hcoprime fun a ha => ?_
  obtain ⟨f, hf, rfl⟩ := List.mem_map.1 ha
  obtain ⟨hmem, hdvd, hgcd⟩ := hpowers f hf
  refine pow_dvd_of_not_dvd_div (hknown _ hmem) horder (fun hno => ?_) hdvd
  have hp1 := dvd_gcd_of_pow_eq_one hn hp (orderOf_dvd_iff_pow_eq_one.1 hno)
  rw [hgcd] at hp1
  exact (Fact.out : p.Prime).one_lt.ne' (Nat.dvd_one.1 hp1)

/-- **The number of an entry that holds is prime.** -/
theorem Holds.prime (h : e.Holds known) (hknown : ∀ q ∈ known, q.Prime) :
    e.number.Prime := by
  have hn : 1 < e.number := h.1
  by_contra hcomposite
  have hp : e.number.minFac.Prime := Nat.minFac_prime hn.ne'
  have : Fact e.number.minFac.Prime := ⟨hp⟩
  have hbase : (e.base : ZMod e.number.minFac) ≠ 0 := by
    intro h0
    have hone := cast_pow hn (Nat.minFac_dvd e.number) (e.number - 1)
    rw [h.2.2.2.1, h0, zero_pow (by omega), Nat.cast_one] at hone
    exact one_ne_zero hone
  have horder : orderOf (e.base : ZMod e.number.minFac) ∣ e.number.minFac - 1 :=
    orderOf_dvd_of_pow_eq_one (ZMod.pow_card_sub_one_eq_one hbase)
  -- so the least prime divisor exceeds the part, and the number has no room for a second one
  have hpart : e.part ∣ e.number.minFac - 1 :=
    (h.part_dvd hknown (Nat.minFac_dvd e.number)).trans horder
  have hle : e.part ≤ e.number.minFac - 1 :=
    Nat.le_of_dvd (Nat.sub_pos_of_lt hp.one_lt) hpart
  have hlt : e.part + 1 ≤ e.number.minFac := by
    have := hp.one_lt
    omega
  have hsq : (e.part + 1) ^ 2 ≤ e.number := by
    calc (e.part + 1) ^ 2 ≤ e.number.minFac ^ 2 := Nat.pow_le_pow_left hlt 2
      _ ≤ e.number := Nat.minFac_sq_le_self (by omega) hcomposite
  exact absurd (h.2.1.trans_le hsq) (lt_irrefl _)

end PrimeEntry

theorem prime_of_certificate {known : List Nat} {es : List PrimeEntry}
    (hknown : ∀ q ∈ known, q.Prime) (h : Certificate known es) : ∀ e ∈ es, e.number.Prime := by
  induction es generalizing known with
  | nil => simp
  | cons e es ih =>
    obtain ⟨he, hes⟩ := h
    have hprime := he.prime hknown
    intro e' he'
    rcases List.mem_cons.1 he' with rfl | he'
    · exact hprime
    · exact ih (by simpa [hprime] using hknown) hes e' he'

end EcdsaVectors
