/-
What is written into a case.

All numbers that a run writes are written in the shortest way, each in the range that it must
be in.  The private scalar that is drawn is written next to its multiple of the base point,
and this is a point that is found valid wherever its curve is known, unless a coordinate is
zero.  The components of a signature lie between zero and the order of the curve of the key in
the slot, which need not be the curve of the case.

* `TestCase.HoldsKey`, `TestCase.HoldsSignature`: what a case holds after a run;
* `Library.run_keyGen`: a run that makes a key pair cannot fail once the scalar is drawn;
* `TestCase.HoldsKey.accepted`: the point next to the scalar passes;
* `TestCase.SignedOn.holdsSignature`: a signature of the textbook has its components in range;
* `Library.outputs_in_range`: all this of every run in every stream.
-/
import EcdsaVectors.Proofs.Codec.Canonical
import EcdsaVectors.Proofs.Run.Alike
import EcdsaVectors.Proofs.Stream.RoundTrip
namespace EcdsaVectors

open Program

variable {V : Values} {κ σ : Type}

/-! ## The width of a number -/

namespace Octets

lemma isShortest_ofNat (n : Nat) : (ofNat n).IsShortest n := by
  have h := isShortest_trim (ofNat n)
  rwa [trim_eq_self (trimmed_ofNat n), value_ofNat] at h

lemma length_ofNat_le {n w : Nat} (h : n < 256 ^ w) : (ofNat n).length ≤ w := by
  rwa [(trimmed_ofNat n).length_le_iff, value_ofNat]

end Octets

/-- The number of octets that hold every number below the order. -/
def Domain.orderLength (D : Domain) : Nat := (D.orderBits + 7) / 8

lemma Domain.order_lt (D : Domain) : D.order < 256 ^ D.orderLength := by
  have hbits : 2 ^ D.orderBits ≤ 2 ^ (8 * D.orderLength) :=
    Nat.pow_le_pow_right (by decide) (by unfold orderLength; omega)
  rw [show 256 = 2 ^ 8 from rfl, ← Nat.pow_mul]
  exact Nat.lt_log2_self.trans_le hbits

/-! ## What a case holds -/

namespace TestCase

/-- The case holds the scalar `d` and, if the base point is multiplied by it, the coordinates
`x` and `y` of the multiple, with no more octets than the order and the field have. -/
structure HoldsKey (c : TestCase) (D : Domain) (d x y : Nat) : Prop where
  multiple : D.curve.multiple d D.base = .affine x y
  d : c.d.IsShortest d
  qx : c.qx.IsShortest (D.curve.field.toNat x)
  qy : c.qy.IsShortest (D.curve.field.toNat y)
  length_d : c.d.length ≤ D.orderLength
  length_qx : c.qx.length ≤ D.fieldLength
  length_qy : c.qy.length ≤ D.fieldLength

/-- The check of the point in the case passes on each backend that knows the curve, in
whatever session. -/
def Accepted (c : TestCase) : Prop :=
  ∀ (L : Library) (v : TestCase), L.knows c.curve = true → v.mode = .keyVer →
    v.curve = c.curve → v.qx = c.qx → v.qy = c.qy →
    ∀ {κ : Type} (K : KeyStore L.values κ) (s : Session κ Entropy),
      (v.run K L.backend s).result = .ok () ∧ (v.run K L.backend s).case.verdict = .pass

/-- The case holds a signature with components between zero and the order, next to a point,
all without zeros in front. -/
structure HoldsSignature (c : TestCase) (D : Domain) : Prop where
  r : c.r ≠ [] ∧ c.r.Trimmed ∧ 0 < c.r.value ∧ c.r.value < D.order
  s : c.s ≠ [] ∧ c.s.Trimmed ∧ 0 < c.s.value ∧ c.s.value < D.order
  qx : c.qx.Trimmed
  qy : c.qy.Trimmed

end TestCase

/-! ## Key pairs -/

namespace Domain.Lawful

variable {D : Domain} (h : D.Lawful) {d : Nat}

include h

lemma multiple_base_ne_infinity (hd : 0 < d) (hlt : d < D.order) :
    D.curve.multiple d D.base ≠ .infinity := by
  have : Fact D.order.Prime := ⟨h.prime⟩
  intro hinfinity
  -- the inverse of the scalar leads back to the base point
  have hinverse : D.curve.multiple (D.scalarInverse d * d) D.base = D.curve.multiple 1 D.base := by
    refine h.multiple_base_congr ?_
    push_cast
    rw [Domain.scalarInverse_cast h.prime hd hlt, inv_mul_cancel₀ (Domain.cast_ne_zero hd hlt)]
  rw [← h.multiple_multiple h.base, hinfinity, Curve.multiple_infinity, h.multiple_succ h.base,
    h.multiple_zero h.base, Curve.infinity_add] at hinverse
  cases hinverse

lemma exists_keyPair? (hd : 0 < d) (hlt : d < D.order) :
    ∃ x y, D.curve.multiple d D.base = .affine x y ∧ D.keyPair? d = some ⟨d, ⟨D, x, y⟩⟩ := by
  cases hm : D.curve.multiple d D.base with
  | infinity => exact absurd hm (h.multiple_base_ne_infinity hd hlt)
  | affine x y =>
    refine ⟨x, y, rfl, ?_⟩
    rw [keyPair?, if_pos ⟨hd, hlt⟩, hm]

end Domain.Lawful

/-- What is written of a key pair is a scalar with its multiple of the base point. -/
lemma KeyPair.Proper.holdsKey {p : KeyPair} (hp : p.Proper) (hD : p.key.domain.Lawful)
    (c : TestCase) :
    (c.record (.key (Octets.ofNat p.scalar) (Octets.ofNat p.key.coordinates.1)
      (Octets.ofNat p.key.coordinates.2))).HoldsKey p.key.domain p.scalar p.key.x p.key.y := by
  obtain ⟨⟨-, hlt⟩, hm, -⟩ := Domain.keyPair?_eq_some hp
  -- the coordinates are elements of the field
  obtain ⟨-, -, hx, hy⟩ :=
    Domain.coordinates_of_publicKey? (hD.publicKey?_coordinates hp rfl)
  exact
    { multiple := hm
      d := Octets.isShortest_ofNat _
      qx := Octets.isShortest_ofNat _
      qy := Octets.isShortest_ofNat _
      length_d := Octets.length_ofNat_le (hlt.trans p.key.domain.order_lt)
      length_qx := Octets.length_ofNat_le (hx.trans_le p.key.domain.card_le)
      length_qy := Octets.length_ofNat_le (hy.trans_le p.key.domain.card_le) }

/-- **The point of a key pair is accepted**, unless a coordinate is zero. -/
theorem TestCase.HoldsKey.accepted {c : TestCase} {d x y : Nat}
    (hc : c.HoldsKey (.standard c.curve) d x y) (hD : (Domain.standard c.curve).Lawful)
    (hd : 0 < d) (hlt : d < (Domain.standard c.curve).order)
    (hx : (Domain.standard c.curve).curve.field.toNat x ≠ 0)
    (hy : (Domain.standard c.curve).curve.field.toNat y ≠ 0) : c.Accepted := by
  intro L v hknows hm hcurve hqx hqy κ K s
  obtain ⟨x', y', hxy, hpair⟩ := hD.exists_keyPair? hd hlt
  obtain ⟨rfl, rfl⟩ := Point.affine.inj (hc.multiple.symm.trans hxy)
  -- the textbook has the key
  have hkey := hD.publicKey?_coordinates (Domain.proper_of_keyPair? hpair).2 rfl
  change (Domain.standard c.curve).publicKey? ((Domain.standard c.curve).curve.field.toNat x)
    ((Domain.standard c.curve).curve.field.toNat y) = some ⟨.standard c.curve, x, y⟩ at hkey
  have hne : ∀ {b : Octets} {n : Nat}, b.IsShortest n → n ≠ 0 → b ≠ [] := by
    rintro _ n hb hn rfl
    exact hn hb.value_eq.symm
  obtain ⟨hok, hverdict⟩ := L.faithful.run_keyVer (hcurve ▸ hknows) hm
    (hqx ▸ hne hc.qx hx) (hqy ▸ hne hc.qy hy) K s
  refine ⟨hok, ?_⟩
  rw [hverdict, hcurve, hqx, hqy, hc.qx.value_eq, hc.qy.value_eq, hkey]
  rfl

/-! ## Making key pairs -/

namespace Backend.Faithful

variable {B : Backend V σ} {M : Meaning V} {domains : CurveName → Domain}
  {knows : CurveName → Bool} (hB : B.Faithful M domains knows)

include hB

lemma makeKey_result {cv : V.Curve} {s : σ} {pair : V.KeyPair} {p : KeyPair}
    (hpair : (B.respond (.generateKeyPair cv) s).answer = .ok pair) (hp : M.keyPair pair p) :
    ((makeKey cv).run B s).result = .ok (.key (Octets.ofNat p.scalar)
      (Octets.ofNat p.key.coordinates.1) (Octets.ofNat p.key.coordinates.2)) := by
  rw [makeKey, result_queryOk_bind hpair]
  obtain ⟨i, hscalar, hi⟩ := hB.privateScalar (B.respond (.generateKeyPair cv) s).state hp
  rw [result_queryOk_bind hscalar]
  obtain ⟨k, hkey, hk⟩ := hB.publicKey (B.respond (.privateScalar pair) _).state hp
  rw [result_queryOk_bind hkey, result_bind, hB.result_writePoint hk]
  simp only [result_bind, hB.result_writeInteger hi]
  rfl

end Backend.Faithful

namespace Library

variable (L : Library)

lemma exists_generateKeyPair {cv : L.values.Curve} {D : Domain} (hcv : L.meaning.curve cv D)
    {E : Entropy} {d : Nat} {p : KeyPair} (hd : (E.draw D.order).1 = some d)
    (hp : D.keyPair? d = some p) :
    ∃ pair, (L.backend.respond (.generateKeyPair cv) E).answer = .ok pair ∧
      L.meaning.keyPair pair p := by
  obtain ⟨hD, hproper⟩ := Domain.proper_of_keyPair? hp
  cases L with
  | bigInteger =>
    obtain rfl : cv = D := hcv
    refine ⟨p, Fault.unless_eq_ok.2 ?_, rfl, hproper⟩
    change ((E.draw cv.order).1.bind cv.keyPair?) = some p
    rw [hd, Option.bind_some, hp]
  | fixedWidth =>
    obtain ⟨rfl, hw⟩ := hcv
    refine ⟨⟨cv, p⟩, Fault.unless_eq_ok.2 ?_, rfl, hD.symm, hD ▸ hw, hproper⟩
    change ((E.draw cv.domain.order).1.bind (FixedWidth.keyPair? cv)) = some _
    rw [hd, Option.bind_some, FixedWidth.keyPair?, hp, Option.map_some]

lemma state_run_task {c : TestCase} (h : c.mode = .keyGen) (s : Session κ Entropy) :
    (s.run L.backend c.task).state = s := by
  cases L with
  | bigInteger => exact state_run_task_bigInteger h s
  | fixedWidth => exact state_run_task_fixedWidth h s

/-- **A run that makes a key pair writes the scalar that is drawn and its multiple of the base
point**, if the backend knows the curve, and cannot fail. -/
theorem run_keyGen (K : KeyStore L.values κ) {s : Session κ Entropy} {c : TestCase} {d : Nat}
    (hm : c.mode = .keyGen) (hknows : L.knows c.curve = true)
    (hD : (Domain.standard c.curve).Lawful)
    (hd : (s.backend.draw (Domain.standard c.curve).order).1 = some d) :
    (c.run K L.backend s).result = .ok () ∧ (c.run K L.backend s).case.curve = c.curve ∧
      ∃ x y, (c.run K L.backend s).case.HoldsKey (.standard c.curve) d x y := by
  have hpos := Entropy.draw_pos hd
  have hlt := Entropy.draw_lt hD.prime.one_lt hd
  obtain ⟨x, y, -, hp⟩ := hD.exists_keyPair? hpos hlt
  have hnamed : ¬ c.Misnamed L.knows := by simp [TestCase.Misnamed, hknows, hm]
  obtain ⟨task, htask, hof⟩ := L.faithful.exists_taskOf hnamed s
  cases task with
  | keyVer cv qx qy => cases hm.symm.trans hof.1
  | sigGen cv h g m => cases hm.symm.trans hof.1
  | sigVer cv h m qx qy r s => cases hm.symm.trans hof.1
  | keyGen cv =>
    obtain ⟨-, hcv⟩ := hof
    -- the scalar is drawn after the curve has been looked up
    obtain ⟨pair, hpair, hmeaning⟩ := L.exists_generateKeyPair hcv hd hp
    have hmade : ((Task.keyGen cv).perform K L.backend (s.run L.backend c.task).state).result =
        _ :=
      (L.state_run_task hm s).symm ▸ L.faithful.makeKey_result hpair hmeaning
    rw [TestCase.run_of_output htask hmade]
    exact ⟨rfl, rfl, x, y, (Domain.proper_of_keyPair? hp).2.holdsKey hD c⟩

end Library

/-! ## Making signatures -/

/-- **A signature of the textbook has components between zero and the order.** -/
lemma TestCase.SignedOn.holdsSignature {c : TestCase} {D : Domain} {hash : HashName}
    {p : KeyPair} {T : Signature} (h : c.SignedOn D hash p T) : c.HoldsSignature D := by
  obtain rfl := h.domain
  obtain ⟨k, -, hlt, hS⟩ := h.signs
  obtain ⟨x, y, -, -, -, hr0, hs0⟩ := Domain.sign_eq_some hS
  obtain ⟨hr, hs⟩ := Domain.sign_lt (by omega) hS
  obtain ⟨hr_ne, hs_ne⟩ := h.components_ne_nil
  refine ⟨⟨hr_ne, ?_⟩, ⟨hs_ne, ?_⟩, ?_, ?_⟩
  · rw [h.r, Octets.value_ofNat]
    exact ⟨Octets.trimmed_ofNat _, hr0, hr⟩
  · rw [h.s, Octets.value_ofNat]
    exact ⟨Octets.trimmed_ofNat _, hs0, hs⟩
  · rw [h.qx]
    exact Octets.trimmed_ofNat _
  · rw [h.qy]
    exact Octets.trimmed_ofNat _

/-! ## All that is written -/

/-- **All numbers are written in the shortest way, and in range.**  On either backend, and for
each curve that it knows whose points form a group in which the base point has prime order: if
a run that makes a key pair draws a scalar, which can be each one in range
(`Entropy.exists_draw`), it succeeds and writes the scalar with its multiple of the base point;
and unless a coordinate is zero this point is accepted on each backend that knows the curve.
In every stream of steps from the beginning on, each run that makes a signature leaves a key
of some curve in the slot, and writes components between zero and the order of this curve. -/
theorem Library.outputs_in_range (L : Library) :
    (∀ {κ : Type} (K : KeyStore L.values κ) (s : Session κ Entropy) (c : TestCase) (d : Nat),
      c.mode = .keyGen → L.knows c.curve = true → (Domain.standard c.curve).Lawful →
      (s.backend.draw (Domain.standard c.curve).order).1 = some d →
      let D := Domain.standard c.curve
      let report := c.run K L.backend s
      report.result = .ok () ∧ report.case.curve = c.curve ∧ (0 < d ∧ d < D.order) ∧
        ∃ x y, report.case.HoldsKey D d x y ∧
          (D.curve.field.toNat x ≠ 0 → D.curve.field.toNat y ≠ 0 → report.case.Accepted)) ∧
    ∀ (E : Entropy) (steps : List Step) (m : Moment L.values Entropy) (c c' : TestCase),
      m ∈ (Session.fresh E).history L.backend none steps → m.step = .run c → c.mode = .sigGen →
      m.report.result = .ran (.ok ()) c' →
      ∃ C, m.keptCurve = some C ∧ L.knows C = true ∧ c'.HoldsSignature (.standard C) := by
  constructor
  · intro κ K s c d hm hknows hD hd
    have hpos := Entropy.draw_pos hd
    have hlt := Entropy.draw_lt hD.prime.one_lt hd
    obtain ⟨hok, hcurve, x, y, hkey⟩ := L.run_keyGen K hm hknows hD hd
    refine ⟨hok, hcurve, ⟨hpos, hlt⟩, x, y, hkey, fun hx hy => ?_⟩
    rw [← hcurve] at hkey hD hlt hx hy
    exact hkey.accepted hD hpos hlt hx hy
  · intro E steps m c c' hm hc hmode hok
    obtain ⟨k, C, hash, p, T, -, -, hC, hknows, hsigned⟩ :=
      L.faithful.signedOn_of_history (.fresh E) hm hc hmode hok
    exact ⟨C, hC, hknows, hsigned.holdsSignature⟩

/-- The base point itself is written and accepted if the scalar one is drawn; and if two groups
sign on different curves without a new key, the components are those of the first curve. -/
theorem outputs_in_range_of_smallest :
    let c : TestCase := { mode := .keyGen, group := 1, number := 1, curve := .p256 }
    let L := Library.bigInteger
    (c.mode = .keyGen ∧ L.knows c.curve = true ∧ (Domain.standard c.curve).Lawful ∧
      (Crossing.start.backend.draw (Domain.standard c.curve).order).1 = some 1 ∧
      (c.run (.slot _) L.backend Crossing.start).result = .ok () ∧
      (c.run (.slot _) L.backend Crossing.start).case.Accepted) ∧
    ∃ m ∈ Crossing.start.history L.backend none
        [.run (Crossing.case .p256), .run (Crossing.case .p384)],
      m.step = .run (Crossing.case .p384) ∧ (Crossing.case .p384).mode = .sigGen ∧
      m.report.result = .ran (.ok ()) (Crossing.report .p384).case ∧
      ∃ C, m.keptCurve = some C ∧ (Crossing.report .p384).case.HoldsSignature (.standard C) := by
  have hdraw : (Crossing.start.backend.draw (Domain.standard .p256).order).1 = some 1 := by
    decide +kernel
  constructor
  · obtain ⟨hok, -, -, x, y, hkey, haccepted⟩ :=
      Library.bigInteger.outputs_in_range.1 (.slot _) Crossing.start
        { mode := .keyGen, group := 1, number := 1, curve := .p256 } 1 rfl rfl Domain.lawful_p256
        hdraw
    -- the multiple by one is the base point
    have hbase : (Domain.standard .p256).curve.multiple 1 (Domain.standard .p256).base =
        (Domain.standard .p256).base := by
      decide +kernel
    obtain ⟨rfl, rfl⟩ := Point.affine.inj (hbase.symm.trans hkey.multiple)
    exact ⟨rfl, rfl, Domain.lawful_p256, hdraw, hok,
      haccepted (by decide +kernel) (by decide +kernel)⟩
  · obtain ⟨m, hm, hstep, hresult, -⟩ := Session.exists_mem_history_pair
      (t := Crossing.session) (r := Crossing.report .p384) rfl rfl none
    have hok : (Crossing.report .p384).result = .ok () := by decide +kernel
    rw [hok] at hresult
    obtain ⟨C, hC, -, hsignature⟩ :=
      Library.bigInteger.outputs_in_range.2 _ _ m _ _ hm hstep rfl hresult
    exact ⟨m, hm, hstep, rfl, hresult, C, hC, hsignature⟩

end EcdsaVectors
