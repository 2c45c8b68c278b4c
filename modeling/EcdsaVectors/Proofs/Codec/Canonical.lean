/-
Scalars and signatures that are read and written.

What is written of a scalar is the shortest of all strings that stand for its number, so that
the octets which are written tell the number, and no more.  They are read as the same scalar
again, but for one case: zero is written as no octets, and no octets are refused.  The two
components of a signature are read and written one by one, in their order.

* `Octets.isShortest_trim`: a string without its zeros in front is shorter than any other of
  its number;
* `Codec.Canonical`: what all this means for a backend;
* `Library.codec_canonical`: it holds on each of the two.
-/
import EcdsaVectors.Proofs.Backend.Library
import EcdsaVectors.Proofs.Codec.Textbook
namespace EcdsaVectors

open Program

variable {V : Values} {σ : Type}

/-! ## The shortest string of a number -/

namespace Octets

/-- The string stands for `n` and has no zeros in front, and any other string that stands for
`n` is longer. -/
structure IsShortest (b : Octets) (n : Nat) : Prop where
  value_eq : b.value = n
  trimmed : b.Trimmed
  length_lt {c : Octets} (hc : c.value = n) (hne : c ≠ b) : b.length < c.length

/-- What is left of a string without its zeros in front is the shortest string of its number. -/
lemma isShortest_trim (b : Octets) : b.trim.IsShortest b.value where
  value_eq := value_trim b
  trimmed := trimmed_trim b
  length_lt := by
    intro c hc hne
    have hle : b.trim.length ≤ c.length := by
      rw [(trimmed_trim b).length_le_iff, value_trim, ← hc]
      exact value_lt c
    refine hle.lt_of_ne fun hlength => hne ?_
    exact eq_of_value_eq hlength.symm (hc.trans (value_trim b).symm)

lemma trim_eq_nil {b : Octets} : b.trim = [] ↔ b.value = 0 := by
  rw [← ofNat_value, ofNat_eq_nil]

/-- Two strings differ in their zeros in front only if they stand for one number. -/
lemma trim_eq_trim {b c : Octets} : b.trim = c.trim ↔ b.value = c.value := by
  constructor
  · intro h
    rw [← value_trim b, h, value_trim]
  · intro h
    rw [← ofNat_value, h, ofNat_value]

end Octets

/-! ## What is read and written -/

namespace Codec

/-- Scalars and signatures stand for the numbers in their octets, and are written in the
shortest way. -/
structure Canonical (B : Backend V σ) : Prop where
  /-- A scalar cannot be read just when there are no octets. -/
  scalar_refused {b : Octets} {s : σ} {f : Fault} :
    ((readScalar b).run B s).result = .error f ↔ b = [] ∧ f = emptyScalar
  /-- A scalar is written as its octets without the zeros in front. -/
  scalar_written {b : Octets} {s : σ} {i : V.Integer}
    (h : ((readScalar b).run B s).result = .ok i) (t : σ) :
    ((writeInteger i).run B t).result = .ok b.trim
  /-- This is the shortest string of the number. -/
  scalar_shortest {b w : Octets} {s t : σ} {i : V.Integer}
    (h : ((readScalar b).run B s).result = .ok i)
    (hw : ((writeInteger i).run B t).result = .ok w) : w.IsShortest b.value
  /-- Two scalars are written alike just when they have been read from one number. -/
  scalars_alike {b c : Octets} {s t : σ} {i j : V.Integer}
    (hi : ((readScalar b).run B s).result = .ok i)
    (hj : ((readScalar c).run B t).result = .ok j) (s' t' : σ) :
    ((writeInteger i).run B s').result = ((writeInteger j).run B t').result ↔ b.value = c.value
  /-- What is written of a scalar is read as the same scalar, unless it is zero. -/
  scalar_again {b w : Octets} {s t : σ} {i : V.Integer}
    (h : ((readScalar b).run B s).result = .ok i)
    (hw : ((writeInteger i).run B t).result = .ok w) (s' : σ) :
    ((readScalar w).run B s').result = if b.value = 0 then .error emptyScalar else .ok i
  /-- A signature cannot be read just when there are no octets of a component. -/
  signature_refused {r s : Octets} {t : σ} {f : Fault} :
    ((readSignature r s).run B t).result = .error f ↔ (r = [] ∨ s = []) ∧ f = emptyScalar
  /-- A signature is written as the octets of its components without the zeros in front. -/
  signature_written {r s : Octets} {t : σ} {S : V.Signature}
    (h : ((readSignature r s).run B t).result = .ok S) (t' : σ) :
    ((writeSignature S).run B t').result = .ok (r.trim, s.trim)
  /-- What is written of a signature is read as the same signature, unless a component is
  zero. -/
  signature_again {r s v w : Octets} {t t' : σ} {S : V.Signature}
    (h : ((readSignature r s).run B t).result = .ok S)
    (hw : ((writeSignature S).run B t').result = .ok (v, w)) (u : σ) :
    ((readSignature v w).run B u).result =
      if r.value = 0 ∨ s.value = 0 then .error emptyScalar else .ok S

end Codec

/-! ## Backends with one value for a number -/

/-- There is one value for a number, and one for a signature. -/
structure Meaning.Unique (M : Meaning V) : Prop where
  integer {i j : V.Integer} {n : Nat} (hi : M.integer i n) (hj : M.integer j n) : i = j
  signature {S S' : V.Signature} {T : Signature} (hS : M.signature S T)
    (hS' : M.signature S' T) : S = S'

namespace Backend.Faithful

variable {B : Backend V σ} {M : Meaning V} {domains : CurveName → Domain}
  {knows : CurveName → Bool} (hB : B.Faithful M domains knows)

include hB

lemma of_readScalar {b : Octets} {s : σ} {i : V.Integer}
    (h : ((Codec.readScalar b).run B s).result = .ok i) : M.integer i b.value := by
  have hread := hB.sameResult_readScalar b s
  rw [h] at hread
  exact hread.of_ok.2

lemma of_readSignature {r s : Octets} {t : σ} {S : V.Signature}
    (h : ((Codec.readSignature r s).run B t).result = .ok S) :
    M.signature S ⟨r.value, s.value⟩ := by
  have hread := hB.sameResult_readSignature r s t
  rw [h] at hread
  exact hread.of_ok.2

lemma writeInteger_trim {b : Octets} {i : V.Integer} (hi : M.integer i b.value) (s : σ) :
    ((Codec.writeInteger i).run B s).result = .ok b.trim := by
  rw [hB.result_writeInteger hi, Octets.ofNat_value]

lemma writeSignature_trim {r s : Octets} {S : V.Signature}
    (hS : M.signature S ⟨r.value, s.value⟩) (t : σ) :
    ((Codec.writeSignature S).run B t).result = .ok (r.trim, s.trim) := by
  rw [hB.result_writeSignature hS, Octets.ofNat_value, Octets.ofNat_value]

variable (hM : M.Unique)

include hM

lemma readScalar_trim {b : Octets} {i : V.Integer} (hi : M.integer i b.value) (s : σ) :
    ((Codec.readScalar b.trim).run B s).result =
      if b.value = 0 then .error Codec.emptyScalar else .ok i := by
  have hread := hB.sameResult_readScalar b.trim s
  simp only [Octets.trim_eq_nil, Octets.value_trim] at hread
  by_cases h0 : b.value = 0
  · rw [if_pos h0] at hread ⊢
    exact hread.eq_error
  · rw [if_neg h0] at hread ⊢
    obtain ⟨j, hj, hij⟩ := hread.exists_ok
    rw [hj, hM.integer hij hi]

lemma readSignature_trim {r s : Octets} {S : V.Signature}
    (hS : M.signature S ⟨r.value, s.value⟩) (t : σ) :
    ((Codec.readSignature r.trim s.trim).run B t).result =
      if r.value = 0 ∨ s.value = 0 then .error Codec.emptyScalar else .ok S := by
  have hread := hB.sameResult_readSignature r.trim s.trim t
  simp only [Octets.trim_eq_nil, Octets.value_trim] at hread
  by_cases h0 : r.value = 0 ∨ s.value = 0
  · rw [if_pos h0] at hread ⊢
    exact hread.eq_error
  · rw [if_neg h0] at hread ⊢
    obtain ⟨S', hS', hT⟩ := hread.exists_ok
    rw [hS', hM.signature hT hS]

lemma canonical_of_unique : Codec.Canonical B where
  scalar_refused := by
    intro b s f
    exact (hB.sameResult_readScalar b s).eq_error_iff
  scalar_written := by
    intro b s i h t
    exact hB.writeInteger_trim (hB.of_readScalar h) t
  scalar_shortest := by
    intro b w s t i h hw
    have hwritten := hB.writeInteger_trim (hB.of_readScalar h) t
    obtain rfl : b.trim = w := Except.ok.inj (hwritten.symm.trans hw)
    exact b.isShortest_trim
  scalars_alike := by
    intro b c s t i j hi hj s' t'
    rw [hB.writeInteger_trim (hB.of_readScalar hi), hB.writeInteger_trim (hB.of_readScalar hj),
      Except.ok.injEq, Octets.trim_eq_trim]
  scalar_again := by
    intro b w s t i h hw s'
    have hi := hB.of_readScalar h
    obtain rfl : b.trim = w := Except.ok.inj ((hB.writeInteger_trim hi t).symm.trans hw)
    exact hB.readScalar_trim hM hi s'
  signature_refused := by
    intro r s t f
    exact (hB.sameResult_readSignature r s t).eq_error_iff
  signature_written := by
    intro r s t S h t'
    exact hB.writeSignature_trim (hB.of_readSignature h) t'
  signature_again := by
    intro r s v w t t' S h hw u
    have hS := hB.of_readSignature h
    obtain ⟨rfl, rfl⟩ : r.trim = v ∧ s.trim = w :=
      Prod.mk.inj (Except.ok.inj ((hB.writeSignature_trim hS t').symm.trans hw))
    exact hB.readSignature_trim hM hS u

end Backend.Faithful

namespace Library

/-- Each backend has one value for a number: the number itself, or its shortest string. -/
lemma unique (L : Library) : L.meaning.Unique := by
  cases L with
  | bigInteger => exact ⟨fun hi hj => Eq.trans hi hj.symm, fun hS hS' => Eq.trans hS hS'.symm⟩
  | fixedWidth =>
    refine ⟨fun hi hj => Eq.trans hi hj.symm, ?_⟩
    rintro ⟨r, s⟩ ⟨r', s'⟩ T ⟨hr, hs⟩ ⟨hr', hs'⟩
    exact congrArg₂ _ (hr.trans hr'.symm) (hs.trans hs'.symm)

/-- **Scalars and signatures are written in the shortest way, and read again unless they are
zero.**  On either backend, for all strings of octets: a scalar is refused just when there are
no octets, and is otherwise written as the shortest string of its number.  Reading this string
gives the scalar again, unless it is zero, and then it is refused.  A signature is read and
written component by component, and read again unless one of the two is zero. -/
theorem codec_canonical (L : Library) : Codec.Canonical L.backend :=
  L.faithful.canonical_of_unique L.unique

end Library

end EcdsaVectors
