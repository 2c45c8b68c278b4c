/-
The backend on strings of octets of a fixed width is faithful.

Its integers are the strings without zeros in front, so each stands for its number, and the
string of a number below `256 ^ w` fits into `w` octets.  That suffices wherever the width is
met if the octets of a coordinate have just as many bits as the order
(`Domain.WholeOctets`): a component of a signature or a coordinate that does not fit is out of
range anyway, and a digest that is cut to the width keeps as many bits as the order has
(`value_prehash`).
-/
import EcdsaVectors.Backend.FixedWidth
import EcdsaVectors.Domain.Standard
import EcdsaVectors.Proofs.Backend.Faithful
import EcdsaVectors.Proofs.Octets.Width
namespace EcdsaVectors

/-! ## Numbers that fit -/

lemma Spread.toBits_lt (m s : Nat) : toBits m s < 2 ^ m := by
  induction m generalizing s with
  | zero => simp [toBits]
  | succ m ih =>
    have h := ih (s / 1024)
    rw [toBits, Nat.pow_succ]
    omega

namespace Field

variable {F : Field}

lemma card_le (F : Field) : F.card ≤ 2 ^ F.degree := by
  cases F with
  | prime p => exact Nat.lt_log2_self.le
  | binary M => exact (Nat.one_shiftLeft M.degree).le

/-- The number that stands for a product is in range. -/
lemma toNat_mul_lt (hF : 0 < F.card) (a b : Nat) : F.toNat (F.mul a b) < F.card := by
  cases F with
  | prime p => exact Nat.mod_lt _ hF
  | binary M => exact (Spread.toBits_lt _ _).trans_eq (Nat.one_shiftLeft _).symm

lemma lt_card_of_ofNat? {v a : Nat} (h : F.ofNat? v = some a) : v < F.card :=
  isSome_ofNat?_iff.1 (by rw [h]; rfl)

end Field

/-- A domain whose coordinates fill whole octets, as many as the order does. -/
structure Domain.WholeOctets (D : Domain) : Prop where
  orderBits : D.orderBits = 8 * D.fieldLength
  card_pos : 0 < D.curve.field.card

/-- A public key whose coordinates fit the field. -/
def PublicKey.Fits (Q : PublicKey) : Prop :=
  Q.coordinates.1 < 256 ^ Q.domain.fieldLength ∧ Q.coordinates.2 < 256 ^ Q.domain.fieldLength

namespace Domain

variable {D : Domain}

lemma two_pow_degree_le (D : Domain) : 2 ^ D.degree ≤ 256 ^ D.fieldLength := by
  rw [show 256 = 2 ^ 8 from rfl, ← Nat.pow_mul]
  exact Nat.pow_le_pow_right (by decide) (by unfold fieldLength; omega)

lemma card_le (D : Domain) : D.curve.field.card ≤ 256 ^ D.fieldLength :=
  (Field.card_le _).trans D.two_pow_degree_le

lemma WholeOctets.order_le (h : D.WholeOctets) : D.order ≤ 256 ^ D.fieldLength := by
  rw [show 256 = 2 ^ 8 from rfl, ← Nat.pow_mul, ← h.orderBits]
  exact Nat.lt_log2_self.le

/-- If the order has whole octets, as many as the coordinates, the leftmost bits of a digest
that count are those of its first octets. -/
lemma digestInteger_eq_value_take (hD : D.orderBits = 8 * D.fieldLength) (h : Octets) :
    D.digestInteger h = Octets.value (h.take D.fieldLength) := by
  rw [digestInteger, hD, Octets.value_take]

/-- A public key with given coordinates has these coordinates. -/
lemma coordinates_of_publicKey? {X Y : Nat} {Q : PublicKey} (h : D.publicKey? X Y = some Q) :
    Q.domain = D ∧ Q.coordinates = (X, Y) ∧ X < D.curve.field.card ∧ Y < D.curve.field.card := by
  obtain ⟨⟨x, y⟩, hp, rfl⟩ := Option.map_eq_some_iff.1 h
  obtain ⟨a, ha, hp⟩ := Option.bind_eq_some_iff.1 hp
  obtain ⟨b, hb, hp⟩ := Option.bind_eq_some_iff.1 hp
  obtain ⟨-, hab⟩ := Option.ite_none_right_eq_some.1 hp
  obtain ⟨rfl, rfl⟩ := Prod.mk.inj (Option.some.inj hab)
  refine ⟨rfl, ?_, Field.lt_card_of_ofNat? ha, Field.lt_card_of_ofNat? hb⟩
  exact Prod.ext (Field.toNat_of_ofNat? ha) (Field.toNat_of_ofNat? hb)

lemma fits_of_publicKey? {X Y : Nat} {Q : PublicKey} (h : D.publicKey? X Y = some Q) :
    Q.Fits := by
  obtain ⟨rfl, hc, hX, hY⟩ := coordinates_of_publicKey? h
  unfold PublicKey.Fits
  rw [hc]
  exact ⟨hX.trans_le Q.domain.card_le, hY.trans_le Q.domain.card_le⟩

end Domain

/-- The coordinates of a multiple are products, and so they are in range. -/
lemma Curve.toNat_multiple_lt {C : Curve} (hF : 0 < C.field.card) {k : Nat} {P : Point}
    {x y : Nat} (h : C.multiple k P = .affine x y) :
    C.field.toNat x < C.field.card ∧ C.field.toNat y < C.field.card := by
  cases P with
  | infinity => cases h
  | affine a b =>
    rw [Curve.multiple, Curve.ofProjective] at h
    by_cases hz : (ladder C.double (C.addAffine a b) ⟨1, 1, 0⟩ k).z = 0
    · rw [if_pos hz] at h
      cases h
    · rw [if_neg hz] at h
      obtain ⟨rfl, rfl⟩ := Point.affine.inj h
      exact ⟨Field.toNat_mul_lt hF _ _, Field.toNat_mul_lt hF _ _⟩

/-- The key of a proper pair has coordinates that fit the field. -/
lemma KeyPair.Proper.fits {p : KeyPair} (hp : p.Proper)
    (hF : 0 < p.key.domain.curve.field.card) : p.key.Fits := by
  obtain ⟨-, hm, -⟩ := Domain.keyPair?_eq_some hp
  obtain ⟨hx, hy⟩ := Curve.toNat_multiple_lt hF hm
  exact ⟨hx.trans_le p.key.domain.card_le, hy.trans_le p.key.domain.card_le⟩

/-- A nonce that is determined by key and digest is in range. -/
lemma NonceGenerator.firstBelow_bounds {n w a k : Nat} {g : NonceGenerator}
    (h : firstBelow n w a g = some k) : 0 < k ∧ k < n := by
  induction a generalizing g with
  | zero => cases h
  | succ a ih =>
    obtain ⟨b, g', hnext⟩ : ∃ b g', g.next w = (b, g') := ⟨_, _, rfl⟩
    rw [firstBelow, hnext] at h
    by_cases hb : 0 < b.value ∧ b.value < n
    · obtain rfl := Option.some.inj ((if_pos hb).symm.trans h)
      exact hb
    · exact ih ((if_neg hb).symm.trans h)

namespace FixedWidth

/-! ## The digest -/

/-- No octet of a digest is left out where it is widened. -/
lemma widened_eq (w : Nat) (h : Octets) :
    widened w h = List.replicate (w - h.length) 0 ++ h := by
  unfold widened Octets.padTo?
  by_cases hw : h.length ≤ w
  · rw [if_pos hw, Option.getD_some]
  · have hzero : w - h.length = 0 := by omega
    rw [if_neg hw, Option.getD_none, hzero, List.replicate_zero, List.nil_append]

lemma length_widened (w : Nat) (h : Octets) : (widened w h).length = w - h.length + h.length := by
  rw [widened_eq, List.length_append, List.length_replicate]

lemma value_widened (w : Nat) (h : Octets) : (widened w h).value = h.value := by
  rw [widened_eq, Octets.value_append, Octets.value_replicate_zero, Nat.zero_mul, Nat.zero_add]

/-- **What is left of a digest at the width of the field are as many bits as the order has.** -/
lemma value_prehash {D : Domain} (hD : D.orderBits = 8 * D.fieldLength) (h : Octets) :
    (prehash D.fieldLength h).value = D.digestInteger h := by
  -- the octets that are too many are those of the digest
  have hlen : 8 * (widened D.fieldLength h).length - 8 * D.fieldLength =
      8 * h.length - 8 * D.fieldLength := by
    rw [length_widened]
    omega
  rw [prehash, Octets.value_take, value_widened, hlen, Domain.digestInteger, hD]

/-! ## The answers -/

/-- An integer is the string that is made of its number. -/
def meaning : Meaning values where
  curve := fun C D => C.domain = D ∧ D.WholeOctets
  digest := Eq
  integer := fun b n => b = Octets.ofNat n
  keyPair := fun P p =>
    P.pair = p ∧ P.curve.domain = p.key.domain ∧ p.key.domain.WholeOctets ∧ p.Proper
  publicKey := fun K Q => K = Q ∧ Q.domain.WholeOctets ∧ Q.Fits
  signature := fun S T => S.r = Octets.ofNat T.r ∧ S.s = Octets.ofNat T.s

lemma exported_eq {w n : Nat} (h : n < 256 ^ w) : exported w n = Octets.ofNat n :=
  Octets.trim_fixed h

/-- Two coordinates, if both fit the field. -/
lemma coordinates?_ofNat (C : Curve) (X Y : Nat) :
    coordinates? C (Octets.ofNat X) (Octets.ofNat Y) =
      if X < 256 ^ C.domain.fieldLength ∧ Y < 256 ^ C.domain.fieldLength then some (X, Y)
      else none := by
  unfold coordinates?
  rw [Octets.padTo?_ofNat, Octets.padTo?_ofNat]
  by_cases hX : X < 256 ^ C.domain.fieldLength
  · by_cases hY : Y < 256 ^ C.domain.fieldLength
    · simp [hX, hY, Octets.value_fixed, Nat.mod_eq_of_lt]
    · simp [hX, hY]
  · simp [hX]

/-- A point whose coordinates do not fit the field is not valid in any case. -/
lemma publicKey?_ofNat (C : Curve) (X Y : Nat) :
    publicKey? C (Octets.ofNat X) (Octets.ofNat Y) = C.domain.publicKey? X Y := by
  unfold publicKey?
  rw [coordinates?_ofNat]
  split
  · rfl
  · next hfit =>
    -- a public key would have coordinates in range
    cases hk : C.domain.publicKey? X Y with
    | none => rfl
    | some Q =>
      obtain ⟨-, -, hX, hY⟩ := Domain.coordinates_of_publicKey? hk
      exact absurd ⟨hX.trans_le C.domain.card_le, hY.trans_le C.domain.card_le⟩ hfit

/-- Two components, if both fit the field. -/
lemma finding?_ofNat (Q : PublicKey) (hash : HashName) (m : Octets) (R S : Nat) :
    finding? Q hash m ⟨Octets.ofNat R, Octets.ofNat S⟩ =
      if R < 256 ^ Q.domain.fieldLength ∧ S < 256 ^ Q.domain.fieldLength
      then some (Q.domain.verify Q.point
        (Octets.value (prehash Q.domain.fieldLength (hash.digest m))) ⟨R, S⟩)
      else none := by
  simp only [finding?, Octets.padTo?_ofNat]
  by_cases hR : R < 256 ^ Q.domain.fieldLength
  · by_cases hS : S < 256 ^ Q.domain.fieldLength
    · simp [hR, hS, Octets.value_fixed, Nat.mod_eq_of_lt]
    · simp [hR, hS]
  · simp [hR]

/-- A signature whose components do not fit the field is not valid in any case. -/
lemma finding?_eq_valid {Q : PublicKey} (hQ : Q.domain.WholeOctets) {hash : HashName}
    {m : Octets} {S : Signature} {T : EcdsaVectors.Signature} (hS : meaning.signature S T) :
    finding? Q hash m S = some .valid ↔ BigInteger.finding Q hash m T = .valid := by
  obtain ⟨r, s⟩ := S
  obtain ⟨rfl, rfl⟩ := hS
  rw [finding?_ofNat, BigInteger.finding, value_prehash hQ.orderBits]
  split
  · -- the components are read as they are
    exact Option.some_inj
  · next hT =>
    -- one of the components is not below the order
    have hrange : ¬(0 < T.r ∧ T.r < Q.domain.order ∧ 0 < T.s ∧ T.s < Q.domain.order) := by
      rintro ⟨-, hTr, -, hTs⟩
      exact hT ⟨hTr.trans_le hQ.order_le, hTs.trans_le hQ.order_le⟩
    rw [Domain.verify, if_neg hrange]
    exact iff_of_false (fun h => nomatch h) (fun h => nomatch h)

/-- A signature that is made is one of the textbook, with the nonce that key and digest
determine. -/
lemma signs_of_signature? {P : KeyPair} {p : EcdsaVectors.KeyPair} (hP : meaning.keyPair P p)
    {hash : HashName} {m : Octets} {S : Signature} (h : signature? P hash m = some S) :
    ∃ T, meaning.signature S T ∧ p.Signs hash m T := by
  obtain ⟨rfl, hD, hw, hp⟩ := hP
  obtain ⟨k, hk, h⟩ := Option.bind_eq_some_iff.1 h
  obtain ⟨T, hT, h⟩ := Option.bind_eq_some_iff.1 h
  obtain rfl := Option.some.inj h
  obtain ⟨hpos, hlt⟩ := NonceGenerator.firstBelow_bounds hk
  rw [hD] at hT hlt ⊢
  -- what is signed is the integer that the textbook makes of the digest
  rw [value_prehash hw.orderBits] at hT
  obtain ⟨hr, hs⟩ := Domain.sign_lt (by omega) hT
  refine ⟨T, ⟨?_, ?_⟩, k, hpos, hlt, hT⟩
  · exact exported_eq (hr.trans_le hw.order_le)
  · exact exported_eq (hs.trans_le hw.order_le)

lemma proper_of_randomKeyPair? {C : Curve} {E : Entropy} {P : KeyPair}
    (h : (randomKeyPair? C E).1 = some P) :
    P.curve = C ∧ P.pair.key.domain = C.domain ∧ P.pair.Proper := by
  obtain ⟨d, -, hd⟩ := Option.bind_eq_some_iff.1 h
  obtain ⟨p, hp, rfl⟩ := Option.map_eq_some_iff.1 hd
  obtain ⟨hD, hp⟩ := Domain.proper_of_keyPair? hp
  exact ⟨rfl, hD, hp⟩

/-- The curves that the backend knows. -/
def knows : CurveName → Bool
  | .p256 | .p384 => true
  | _ => false

/-- **The backend on strings of octets answers by the textbook**, on domains whose coordinates
fill whole octets. -/
theorem faithful {domains : CurveName → Domain}
    (hD : ∀ name, knows name = true → (domains name).WholeOctets) :
    (Backend.fixedWidth domains).Faithful meaning domains knows where
  curve := by
    rintro name s hk
    cases name with
    | p256 => exact ⟨_, rfl, rfl, hD .p256 rfl⟩
    | p384 => exact ⟨_, rfl, rfl, hD .p384 rfl⟩
    | _ => cases hk
  noCurve := by
    rintro name s hk
    cases name with
    | p256 => cases hk
    | p384 => cases hk
    | _ => rfl
  digest name s := ⟨name, rfl, rfl⟩
  generateKeyPair := by
    rintro C D s ⟨rfl, hw⟩ P h
    obtain ⟨rfl, hD, hp⟩ := proper_of_randomKeyPair? (Fault.unless_eq_ok.1 h)
    exact ⟨P.pair, ⟨rfl, hD.symm, hD ▸ hw, hp⟩, hD, hp⟩
  privateScalar := by
    rintro P p s ⟨rfl, hD, hw, hp⟩
    refine ⟨_, rfl, exported_eq ?_⟩
    rw [hD]
    exact hp.scalar_bounds.2.trans_le hw.order_le
  publicKey := by
    rintro P p s ⟨rfl, hD, hw, hp⟩
    exact ⟨P.pair.key, rfl, rfl, hw, hp.fits hw.card_pos⟩
  publicKeyOfCoordinates := by
    rintro C D x y X Y s ⟨rfl, hw⟩ rfl rfl
    refine ⟨_, rfl, ?_⟩
    rw [publicKey?_ofNat]
    cases hk : C.domain.publicKey? X Y with
    | none => exact .none
    | some Q =>
      refine .some ⟨rfl, ?_, Domain.fits_of_publicKey? hk⟩
      rwa [(Domain.coordinates_of_publicKey? hk).1]
  coordinates := by
    rintro K Q s ⟨rfl, -, hX, hY⟩
    exact ⟨_, _, rfl, exported_eq hX, exported_eq hY⟩
  integerOfOctets b s := ⟨b.trim, rfl, (Octets.ofNat_value b).symm⟩
  octetsOfInteger := by
    rintro i n s rfl
    rfl
  sign := by
    rintro P p h hash m s hP rfl S hS
    exact signs_of_signature? hP (Fault.unless_eq_ok.1 hS)
  verify := by
    rintro K Q h hash S T m s ⟨rfl, hw, -⟩ rfl hS
    refine congrArg Except.ok ?_
    rw [decide_eq_decide]
    exact finding?_eq_valid hw hS
  signatureOfComponents := by
    rintro r s' R S s rfl rfl
    exact ⟨_, rfl, rfl, rfl⟩
  components := by
    rintro S T s ⟨hr, hs⟩
    exact ⟨_, _, rfl, hr, hs⟩

/-- The two standard curves of the backend fill whole octets. -/
lemma wholeOctets_standard {name : CurveName} (h : knows name = true) :
    (Domain.standard name).WholeOctets := by
  cases name with
  | p256 => exact ⟨by decide +kernel, by decide +kernel⟩
  | p384 => exact ⟨by decide +kernel, by decide +kernel⟩
  | _ => cases h

end FixedWidth

end EcdsaVectors
