/-
The integer of a digest.

A digest is any string of octets, and what is signed is an integer.  On the backend on strings of
octets zeros are put in front of a digest that has fewer octets than the field; one that has
more is handed on as it is, and the primitives cut it.  The other backend hands any digest on as
it is.  What the primitives make of it is not up to the backends, and at a fixed width nothing
is known of strings that are too short (`DigestReaders.Documented`).

* `Domain.read_widened`: at a fixed width the primitives are handed as many octets as the field
  has, or more, and so they take the integer of the digest;
* `Domain.digestMeans_digestInteger`: one integer is signed and checked on both backends.
-/
import EcdsaVectors.Proofs.Backend.FixedWidth
import EcdsaVectors.Proofs.Octets.Bits
namespace EcdsaVectors

/-! ## Primitives -/

/-- The integers that the primitives make of the strings that are handed to them as digests. -/
structure DigestReaders where
  /-- Where a signature is made at a fixed width. -/
  signing : Octets → Nat
  /-- Where a signature is checked at a fixed width. -/
  checking : Octets → Nat
  /-- Where integers have any size. -/
  unbounded : Octets → Nat

/-- What is documented of the primitives.  At a fixed width it is said only of strings that have as
many octets as the field. -/
structure DigestReaders.Documented (R : DigestReaders) (D : Domain) : Prop where
  signing : ∀ z : Octets, D.fieldLength ≤ z.length →
    R.signing z = Octets.value (z.take D.fieldLength)
  checking : ∀ z : Octets, D.fieldLength ≤ z.length →
    R.checking z = Octets.value (z.take D.fieldLength)
  /-- The leftmost bits count, as many as the order has, or all bits if there are no more. -/
  unbounded : ∀ h : Octets, R.unbounded h = Octets.ofBits (h.bits.take D.orderBits)

namespace FixedWidth

/-- Signs the integer `e` with the nonce that the key and the octets `z` determine. -/
def signInteger? (P : KeyPair) (z : Octets) (e : Nat) : Option Signature := do
  let D := P.curve.domain
  let w := D.fieldLength
  let k ← deterministicNonce? P.curve.nonceHash D.order w P.pair.scalar z
  let S ← D.sign P.pair.scalar e k
  some ⟨exported w S.r, exported w S.s⟩

/-- Signs a digest, of which the primitive reads an integer. -/
def signDigest? (read : Octets → Nat) (P : KeyPair) (h : Octets) : Option Signature :=
  let w := P.curve.domain.fieldLength
  signInteger? P (prehash w h) (read (widened w h))

/-- What the check of a signature of the integer `e` finds, if the components fit the field. -/
def checkInteger? (Q : PublicKey) (e : Nat) (S : Signature) : Option Finding := do
  let w := Q.domain.fieldLength
  let r ← Octets.padTo? w S.r
  let s ← Octets.padTo? w S.s
  some (Q.domain.verify Q.point e ⟨r.value, s.value⟩)

/-- Checks a signature of a digest, of which the primitive reads an integer. -/
def checkDigest? (read : Octets → Nat) (Q : PublicKey) (h : Octets) (S : Signature) :
    Option Finding :=
  checkInteger? Q (read (widened Q.domain.fieldLength h)) S

end FixedWidth

namespace BigInteger

/-- Signs the integer `e` with a nonce drawn at random. -/
def signInteger? (p : KeyPair) (e : Nat) (E : Entropy) : Option Signature × Entropy :=
  let D := p.key.domain
  let (k, E) := E.draw D.order
  (k.bind (D.sign p.scalar e), E)

/-- Signs a digest, of which the primitive reads an integer. -/
def signDigest? (read : Octets → Nat) (p : KeyPair) (h : Octets) (E : Entropy) :
    Option Signature × Entropy :=
  signInteger? p (read h) E

/-- What the check of a signature of the integer `e` finds. -/
def checkInteger (Q : PublicKey) (e : Nat) (S : Signature) : Finding :=
  Q.domain.verify Q.point e S

/-- Checks a signature of a digest, of which the primitive reads an integer. -/
def checkDigest (read : Octets → Nat) (Q : PublicKey) (h : Octets) (S : Signature) : Finding :=
  checkInteger Q (read h) S

end BigInteger

namespace Domain

/-- The integer `e` is signed and checked for the digest `h`, on both backends. -/
structure DigestMeans (D : Domain) (R : DigestReaders) (h : Octets) (e : Nat) : Prop where
  /-- The digest is handed on as it is, after zeros if it has fewer octets than the field. -/
  handed : FixedWidth.widened D.fieldLength h =
    List.replicate (D.fieldLength - h.length) 0 ++ h
  /-- There are at least as many octets then as the field has. -/
  enough : D.fieldLength ≤ (FixedWidth.widened D.fieldLength h).length
  /-- The three primitives read one integer. -/
  signing : R.signing (FixedWidth.widened D.fieldLength h) = e
  checking : R.checking (FixedWidth.widened D.fieldLength h) = e
  unbounded : R.unbounded h = e
  /-- It is that of the first octets, those that are zero included. -/
  cut : e = Octets.value (h.take D.fieldLength)
  /-- A digest that has no more octets than the field keeps its integer. -/
  whole : h.length ≤ D.fieldLength → e = h.value
  signDigest? : ∀ P : FixedWidth.KeyPair, P.curve.domain = D →
    FixedWidth.signDigest? R.signing P h =
      FixedWidth.signInteger? P (FixedWidth.prehash D.fieldLength h) e
  checkDigest? : ∀ (Q : PublicKey) (S : FixedWidth.Signature), Q.domain = D →
    FixedWidth.checkDigest? R.checking Q h S = FixedWidth.checkInteger? Q e S
  signDigest?_unbounded : ∀ (p : KeyPair) (E : Entropy), p.key.domain = D →
    BigInteger.signDigest? R.unbounded p h E = BigInteger.signInteger? p e E
  checkDigest_unbounded : ∀ (Q : PublicKey) (S : Signature), Q.domain = D →
    BigInteger.checkDigest R.unbounded Q h S = BigInteger.checkInteger Q e S

/-- The integer `e` is signed and checked for the message, by what the backends answer. -/
structure MessageMeans (D : Domain) (hash : HashName) (m : Octets) (e : Nat) : Prop where
  signature? : ∀ P : FixedWidth.KeyPair, P.curve.domain = D →
    FixedWidth.signature? P hash m =
      FixedWidth.signInteger? P (FixedWidth.prehash D.fieldLength (hash.digest m)) e
  finding? : ∀ (Q : PublicKey) (S : FixedWidth.Signature), Q.domain = D →
    FixedWidth.finding? Q hash m S = FixedWidth.checkInteger? Q e S
  signature?_unbounded : ∀ (p : KeyPair) (E : Entropy), p.key.domain = D →
    BigInteger.signature? p hash m E = BigInteger.signInteger? p e E
  finding_unbounded : ∀ (Q : PublicKey) (S : Signature), Q.domain = D →
    BigInteger.finding Q hash m S = BigInteger.checkInteger Q e S

end Domain

/-! ## The integer -/

namespace Domain

variable {D : Domain} {R : DigestReaders}

/-- No string is handed on that has fewer octets than the field. -/
lemma fieldLength_le_widened (D : Domain) (h : Octets) :
    D.fieldLength ≤ (FixedWidth.widened D.fieldLength h).length := by
  rw [FixedWidth.length_widened]
  omega

/-- The integer of a digest is that of its leftmost bits. -/
lemma digestInteger_eq_ofBits (D : Domain) (h : Octets) :
    D.digestInteger h = Octets.ofBits (h.bits.take D.orderBits) :=
  (Octets.ofBits_take_bits D.orderBits h).symm

lemma read_widened (hD : D.orderBits = 8 * D.fieldLength) {read : Octets → Nat}
    (hread : ∀ z : Octets, D.fieldLength ≤ z.length →
      read z = Octets.value (z.take D.fieldLength)) (h : Octets) :
    read (FixedWidth.widened D.fieldLength h) = D.digestInteger h := by
  rw [hread _ (D.fieldLength_le_widened h)]
  exact FixedWidth.value_prehash hD h

lemma digestMeans (hD : D.orderBits = 8 * D.fieldLength) (hR : R.Documented D) (h : Octets) :
    D.DigestMeans R h (D.digestInteger h) where
  handed := FixedWidth.widened_eq _ h
  enough := D.fieldLength_le_widened h
  signing := read_widened hD hR.signing h
  checking := read_widened hD hR.checking h
  unbounded := (hR.unbounded h).trans (D.digestInteger_eq_ofBits h).symm
  cut := digestInteger_eq_value_take hD h
  whole := by
    intro hw
    rw [digestInteger_eq_value_take hD, List.take_of_length_le hw]
  signDigest? := by
    rintro P rfl
    rw [FixedWidth.signDigest?, read_widened hD hR.signing]
  checkDigest? := by
    rintro Q S rfl
    rw [FixedWidth.checkDigest?, read_widened hD hR.checking]
  signDigest?_unbounded := by
    intro p E _
    rw [BigInteger.signDigest?, hR.unbounded, digestInteger_eq_ofBits]
  checkDigest_unbounded := by
    intro Q S _
    rw [BigInteger.checkDigest, hR.unbounded, digestInteger_eq_ofBits]

lemma messageMeans (hD : D.orderBits = 8 * D.fieldLength) (hash : HashName) (m : Octets) :
    D.MessageMeans hash m (D.digestInteger (hash.digest m)) where
  -- at a fixed width the first octets of the widened digest are read, as by a primitive
  signature? := by
    rintro P rfl
    rw [← FixedWidth.value_prehash hD]
    rfl
  finding? := by
    rintro Q S rfl
    rw [← FixedWidth.value_prehash hD]
    rfl
  signature?_unbounded := by
    rintro p E rfl
    rfl
  finding_unbounded := by
    rintro Q S rfl
    rfl

/-- **A digest means one integer**, whatever its length, if the order has whole octets, as many as
the field.  The backends sign and check the integer of its leftmost bits, and do so for each
message whose digest it is. -/
theorem digestMeans_digestInteger (hD : D.orderBits = 8 * D.fieldLength)
    (hR : R.Documented D) (h : Octets) :
    D.DigestMeans R h (D.digestInteger h) ∧
      ∀ (hash : HashName) (m : Octets), hash.digest m = h →
        D.MessageMeans hash m (D.digestInteger h) := by
  refine ⟨digestMeans hD hR h, ?_⟩
  rintro hash m rfl
  exact messageMeans hD hash m

end Domain

/-! ## Two digests -/

/-- Primitives that shift octets or bits out, and so take also shorter strings. -/
def DigestReaders.shifting (D : Domain) : DigestReaders where
  signing z := z.value >>> (8 * z.length - 8 * D.fieldLength)
  checking z := Octets.value (z.take D.fieldLength)
  unbounded h := h.cutToBits D.orderBits

lemma DigestReaders.documented_shifting (D : Domain) : (shifting D).Documented D where
  signing z _ := (Octets.value_take _ z).symm
  checking _ _ := rfl
  unbounded h := Octets.cutToBits_eq _ h

/-- A zero in front counts where a digest is cut, and where it is not it changes nothing.  The
third integer is that of a digest of 160 bits on a curve of 384. -/
theorem digestMeans_of_zero_in_front :
    (Domain.p256.orderBits = 8 * Domain.p256.fieldLength ∧
      (DigestReaders.shifting .p256).Documented .p256) ∧
    (Domain.p384.orderBits = 8 * Domain.p384.fieldLength ∧
      (DigestReaders.shifting .p384).Documented .p384) ∧
    Domain.p256.DigestMeans (.shifting .p256) (0 :: List.replicate 63 7)
      (Octets.value (List.replicate 31 7)) ∧
    Domain.p384.DigestMeans (.shifting .p384) (0 :: List.replicate 19 7)
      (Octets.value (List.replicate 19 7)) ∧
    Domain.p384.MessageMeans .sha1 [0x61, 0x62, 0x63]
      0xa9993e364706816aba3e25717850c26c9cd0d89d := by
  have h256 : Domain.p256.orderBits = 8 * Domain.p256.fieldLength := by decide +kernel
  have h384 : Domain.p384.orderBits = 8 * Domain.p384.fieldLength := by decide +kernel
  have d256 := DigestReaders.documented_shifting .p256
  have d384 := DigestReaders.documented_shifting .p384
  refine ⟨⟨h256, d256⟩, ⟨h384, d384⟩, ?_, ?_, ?_⟩
  · have h := (Domain.digestMeans_digestInteger h256 d256 (0 :: List.replicate 63 7)).1
    rwa [show Domain.p256.digestInteger (0 :: List.replicate 63 7) =
      Octets.value (List.replicate 31 7) by decide +kernel] at h
  · have h := (Domain.digestMeans_digestInteger h384 d384 (0 :: List.replicate 19 7)).1
    rwa [show Domain.p384.digestInteger (0 :: List.replicate 19 7) =
      Octets.value (List.replicate 19 7) by decide +kernel] at h
  · have h := (Domain.digestMeans_digestInteger h384 d384 _).2 .sha1 [0x61, 0x62, 0x63] rfl
    rwa [show Domain.p384.digestInteger (HashName.sha1.digest [0x61, 0x62, 0x63]) =
      0xa9993e364706816aba3e25717850c26c9cd0d89d by decide +kernel] at h

end EcdsaVectors
