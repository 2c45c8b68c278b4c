/-
Checks of cases that have been tampered with.

A signature has passed, and then one octet of it, or of its public key, is changed.  The check
of the changed case comes to a verdict, and mostly this is a fail.  But the verifier compares no
more than the abscissa of a point, and this modulo the order.  So the second component can be
replaced by its opposite modulo the order, and there are components for which this is a change
of one octet (`not_noticed_of_opposite`).

* `TestCase.Unnoticed`: the ways in which a change is not noticed;
* `Library.run_tampered`: the check of a changed case passes in these ways, and in no other.
-/
import EcdsaVectors.Proofs.Domain.Tampering
import EcdsaVectors.Proofs.Run.Check
import EcdsaVectors.Proofs.Run.Faults
import EcdsaVectors.Scenario
namespace EcdsaVectors

variable {V : Values} {κ σ : Type}

/-! ## Verdicts of the textbook -/

lemma Verdict.eq_fail_iff {v : Verdict} : v = .fail ↔ v ≠ .pass := by
  cases v <;> simp

/-- The textbook has the public key of the case, and finds its signature of `e` valid. -/
def TestCase.Valid (c : TestCase) (D : Domain) (e : Nat) : Prop :=
  ∃ Q, D.publicKey? c.qx.value c.qy.value = some Q ∧
    D.verify Q.point e ⟨c.r.value, c.s.value⟩ = .valid

namespace Backend.Faithful

variable {B : Backend V σ} {M : Meaning V} {domains : CurveName → Domain}
  {knows : CurveName → Bool} (hB : B.Faithful M domains knows) {c : TestCase}
  {K : KeyStore V κ} {s : Session κ σ}

include hB

/-- A check that does not fail has names that are known, and no field of it is empty. -/
lemma complete_of_ok (hok : (c.run K B s).result = .ok ()) :
    ¬ c.Misnamed knows ∧ ¬ c.Incomplete := by
  have hkind : (c.run K B s).faultKind? = none := by
    rw [Report.faultKind?, hok]
  have hnamed : ¬ c.Misnamed knows := by
    intro h
    cases hkind.symm.trans (hB.run_misnamed h)
  refine ⟨hnamed, fun hi => ?_⟩
  cases hkind.symm.trans (hB.run_incomplete hnamed hi)

/-- The check of a signature passes if the textbook finds it valid. -/
lemma run_sigVer_iff (hm : c.mode = .sigVer) {hash : HashName} (hh : c.hash = some hash)
    (hnamed : ¬ c.Misnamed knows) (hcomplete : ¬ c.Incomplete) :
    (c.run K B s).result = .ok () ∧ ((c.run K B s).case.verdict = .pass ↔
      c.Valid (domains c.curve) ((domains c.curve).digestInteger (hash.digest c.message))) := by
  have hk : knows c.curve = true := by simpa [TestCase.Misnamed, hh] using hnamed
  obtain ⟨hr, hs, hx, hy⟩ : c.r ≠ [] ∧ c.s ≠ [] ∧ c.qx ≠ [] ∧ c.qy ≠ [] := by
    simpa [TestCase.Incomplete, hm] using hcomplete
  obtain ⟨hok, hverdict⟩ := hB.run_sigVer hk hm hh hx hy hr hs K s
  refine ⟨hok, ?_⟩
  rw [hverdict, Verdict.ofBool_eq_pass, Option.any_eq_true]
  refine exists_congr fun Q => and_congr_right fun hQ => ?_
  rw [decide_eq_true_iff, BigInteger.finding, (Domain.isPoint_of_publicKey? hQ).1]

end Backend.Faithful

/-! ## Changes of one octet -/

namespace TestCase

/-- The point that is compared in the check of a case with the public key `Q`. -/
def compared (c : TestCase) (D : Domain) (Q : PublicKey) (e : Nat) : Point :=
  D.verifyingPoint Q.point e c.r.value c.s.value

/-- The ways in which a check does not notice that a part of the case `c` has been changed, so
that the case is `c'` now. -/
inductive Unnoticed (c c' : TestCase) (D : Domain) (Q : PublicKey) (e : Nat) : Part → Prop
  /-- The second component has become its opposite, and so has the point. -/
  | opposite (h : c'.s.value + c.s.value = D.order) : Unnoticed c c' D Q e .s
  /-- The second component has become another one, and the point a multiple of itself, whose
  abscissa is not the same, but the same modulo the order. -/
  | multiple (hs : 0 < c'.s.value ∧ c'.s.value < D.order)
    (h : D.Collide (c.compared D Q e) (D.fraction c.s.value c'.s.value (c.compared D Q e))) :
    Unnoticed c c' D Q e .s
  /-- The first component has become the abscissa of the point that it leads to. -/
  | component (hr : 0 < c'.r.value ∧ c'.r.value < D.order)
    (h : D.HasAbscissa (D.curve.add (c.compared D Q e)
      (D.fraction (c'.r.value - c.r.value : ZMod D.order) c.s.value Q.point)) c'.r.value) :
    Unnoticed c c' D Q e .r
  /-- The public key has become another one with the same ordinate, and the abscissa of the
  point that this leads to is that of the signature. -/
  | key {Q' : PublicKey} (hQ' : D.publicKey? c'.qx.value c'.qy.value = some Q')
    (h : D.HasAbscissa (D.curve.add (c.compared D Q e)
      (D.fraction c.r.value c.s.value (D.curve.add Q'.point (D.curve.neg Q.point))))
      c.r.value) : Unnoticed c c' D Q e .qx
  /-- The public key has become its opposite, and either is nothing signed but zero, or the
  abscissa of the point is not the same, but the same modulo the order. -/
  | oppositeKey {Q' : PublicKey} (hQ' : D.publicKey? c'.qx.value c'.qy.value = some Q')
    (hneg : Q'.point = D.curve.neg Q.point)
    (h : D.order ∣ e ∨ D.Collide (c.compared D Q e) (D.curve.add (c.compared D Q e)
      (D.fraction c.r.value c.s.value (D.curve.add Q'.point (D.curve.neg Q.point))))) :
    Unnoticed c c' D Q e .qy

variable {c : TestCase} {part : Part} {f : Octets → Octets} {i : Nat} {o : UInt8}

lemma mode_onPart : (c.onPart f part).mode = c.mode := by
  cases part <;> rfl

lemma curve_onPart : (c.onPart f part).curve = c.curve := by
  cases part <;> rfl

lemma hash_onPart : (c.onPart f part).hash = c.hash := by
  cases part <;> rfl

lemma message_onPart (hpart : part ≠ .message) : (c.onPart f part).message = c.message := by
  cases part with
  | message => exact absurd rfl hpart
  | qx | qy | r | s => rfl

/-- No part becomes empty by a change of an octet. -/
lemma incomplete_onPart_set : (c.onPart (·.set i o) part).Incomplete ↔ c.Incomplete := by
  cases part <;> simp [Incomplete, onPart, List.set_eq_nil_iff]

/-- A change of an octet changes the number. -/
lemma value_set_ne {b : Octets} (h : b.set i o ≠ b) : Octets.value (b.set i o) ≠ b.value :=
  mt (Octets.eq_of_value_eq List.length_set) h

/-- **A changed case is valid in the ways in which a change is not noticed.** -/
theorem valid_onPart_iff {D : Domain} (hD : D.Elliptic) {Q : PublicKey}
    (hQ : D.publicKey? c.qx.value c.qy.value = some Q) {e : Nat}
    (hv : D.verify Q.point e ⟨c.r.value, c.s.value⟩ = .valid) (hpart : part ≠ .message)
    (hne : c.onPart (·.set i o) part ≠ c) :
    (c.onPart (·.set i o) part).Valid D e ↔
      c.Unnoticed (c.onPart (·.set i o) part) D Q e part := by
  have hsame : ∀ {Q'}, D.publicKey? c.qx.value c.qy.value = some Q' → Q' = Q :=
    fun hQ' => Option.some.inj (hQ'.symm.trans hQ)
  cases part with
  | message => exact absurd rfl hpart
  | r =>
    have hiff := hD.verify_first_iff hQ hv rfl (Octets.value (c.r.set i o))
    constructor
    · rintro ⟨Q', hQ', hv'⟩
      obtain rfl := hsame hQ'
      obtain ⟨hr, h⟩ := hiff.1 hv'
      exact .component hr h
    · rintro (_ | _ | ⟨hr, h⟩)
      exact ⟨Q, hQ, hiff.2 ⟨hr, h⟩⟩
  | s =>
    have hs : Octets.value (c.s.set i o) ≠ c.s.value :=
      value_set_ne fun h => hne (by simp [onPart, h])
    have hiff := hD.verify_second_iff hQ hv rfl hs
    constructor
    · rintro ⟨Q', hQ', hv'⟩
      obtain rfl := hsame hQ'
      rcases hiff.1 hv' with h | ⟨hs, h⟩
      · exact .opposite h
      · exact .multiple hs h
    · rintro (h | ⟨hs, h⟩)
      · exact ⟨Q, hQ, hiff.2 (.inl h)⟩
      · exact ⟨Q, hQ, hiff.2 (.inr ⟨hs, h⟩)⟩
  | qx =>
    constructor
    · rintro ⟨Q', hQ', hv'⟩
      exact .key hQ' ((hD.verify_key_iff hQ hv rfl hQ').1 hv')
    · rintro (_ | _ | _ | ⟨hQ', h⟩)
      exact ⟨_, hQ', (hD.verify_key_iff hQ hv rfl hQ').2 h⟩
  | qy =>
    have hy : Octets.value (c.qy.set i o) ≠ c.qy.value :=
      value_set_ne fun h => hne (by simp [onPart, h])
    constructor
    · rintro ⟨Q', hQ', hv'⟩
      have hneg := hD.point_eq_neg hQ hQ' hy
      exact .oppositeKey hQ' hneg ((hD.verify_opposite_iff hQ hv rfl hneg).1 hv')
    · rintro (_ | _ | _ | _ | ⟨hQ', hneg, h⟩)
      exact ⟨_, hQ', (hD.verify_opposite_iff hQ hv rfl hneg).2 h⟩

end TestCase

/-! ## Runs -/

/-- **What comes of a change of one octet** of a signature that has passed, or of its public
key, on either backend: the check comes to a verdict, in any session, and this is a fail unless
the change is one of those that are not noticed.  On the curves over prime fields of up to 384
bits, and so on all curves that the backend on strings of octets knows, nothing is asked of the
domain. -/
theorem Library.run_tampered (L : Library) (K : KeyStore L.values κ) (s : Session κ Entropy)
    {c : TestCase} (hm : c.mode = .sigVer)
    (hC : c.curve ∉ [.p192, .p224, .p256, .p384] → (Domain.standard c.curve).Elliptic)
    (hok : (c.run K L.backend s).result = .ok ())
    (hpass : (c.run K L.backend s).case.verdict = .pass) :
    ∃ (hash : HashName) (Q : PublicKey), c.hash = some hash ∧
      (Domain.standard c.curve).publicKey? c.qx.value c.qy.value = some Q ∧
      ∀ (part : Part) (i : Nat) (o : UInt8), part ≠ .message →
        c.onPart (·.set i o) part ≠ c → ∀ s' : Session κ Entropy,
          let D := Domain.standard c.curve
          let c' := c.onPart (·.set i o) part
          let report := c'.run K L.backend s'
          report.result = .ok () ∧ (report.case.verdict = .fail ↔
            ¬ c.Unnoticed c' D Q (D.digestInteger (hash.digest c.message)) part) := by
  have hD : (Domain.standard c.curve).Elliptic := by
    by_cases h : c.curve ∈ [.p192, .p224, .p256, .p384]
    · exact Domain.elliptic_standard h
    · exact hC h
  obtain ⟨hnamed, hcomplete⟩ := L.faithful.complete_of_ok hok
  obtain ⟨hash, hh⟩ : ∃ hash, c.hash = some hash := by
    rw [← Option.ne_none_iff_exists']
    exact fun hh => hnamed (.inr ⟨.inr hm, hh⟩)
  obtain ⟨-, hvalid⟩ := L.faithful.run_sigVer_iff (K := K) (s := s) hm hh hnamed hcomplete
  obtain ⟨Q, hQ, hv⟩ := hvalid.1 hpass
  refine ⟨hash, Q, hh, hQ, fun part i o hpart hne s' => ?_⟩
  intro D c' report
  -- the changed case is one of the same kind
  have hnamed' : ¬ c'.Misnamed L.knows := by
    rwa [TestCase.Misnamed, TestCase.curve_onPart, TestCase.mode_onPart, TestCase.hash_onPart]
  obtain ⟨hok', hvalid'⟩ := L.faithful.run_sigVer_iff (K := K) (s := s')
    (TestCase.mode_onPart.trans hm) (TestCase.hash_onPart.trans hh) hnamed'
    (mt TestCase.incomplete_onPart_set.1 hcomplete)
  rw [TestCase.curve_onPart, TestCase.message_onPart hpart,
    TestCase.valid_onPart_iff hD hQ hv hpart hne] at hvalid'
  refine ⟨hok', ?_⟩
  rw [Verdict.eq_fail_iff, ← not_iff_not.2 hvalid']

namespace Opposite

/-- The check of a signature of no octets, which is made with the nonce one, and with a scalar
for which the second component is half of the order, rounded down. -/
def case : TestCase where
  mode := .sigVer
  group := 1
  number := 1
  curve := .p256
  hash := some .sha256
  qx := .ofNat 0x620f03f3500c4869ec489cd2776a3789de481c611ab6dc76066bf7b215ef91d7
  qy := .ofNat 0xd018aa8913cbca56b818fb7424045ca9d52cf2afe00ef8d0f985f5a9ef433128
  r := .ofNat 0x6b17d1f2e12c4247f8bce6e563a440f277037d812deb33a0f4a13945d898c296
  s := .ofNat 0x7fffffff800000007fffffffffffffffde737d56d38bcf4279dce5617e3192a8

/-- The case with another last octet of the second component. -/
def changed (o : UInt8) : TestCase := case.onPart (·.set 31 o) .s

lemma passes : (Passing.report case).result = .ok () ∧
    (Passing.report case).case.verdict = .pass := by
  decide +kernel

end Opposite

/-- The second component differs from its opposite in the last octet.  If this becomes another
one still, the change is noticed. -/
theorem run_tampered_of_opposite :
    Opposite.case.mode = .sigVer ∧ Opposite.case.curve ∈ [.p192, .p224, .p256, .p384] ∧
      (Passing.report Opposite.case).result = .ok () ∧
      (Passing.report Opposite.case).case.verdict = .pass ∧
      ∃ (hash : HashName) (Q : PublicKey), Opposite.case.hash = some hash ∧
        Domain.p256.publicKey? Opposite.case.qx.value Opposite.case.qy.value = some Q ∧
        Part.s ≠ .message ∧ Opposite.changed 0xaa ≠ Opposite.case ∧
        (Passing.report (Opposite.changed 0xaa)).result = .ok () ∧
        (Passing.report (Opposite.changed 0xaa)).case.verdict = .fail ∧
        ¬ Opposite.case.Unnoticed (Opposite.changed 0xaa) .p256 Q
          (Domain.p256.digestInteger (hash.digest [])) .s := by
  have hC : Opposite.case.curve ∈ [.p192, .p224, .p256, .p384] := by decide
  obtain ⟨hok, hpass⟩ := Opposite.passes
  obtain ⟨hash, Q, hh, hQ, h⟩ := Library.run_tampered .fixedWidth (.slot _)
    (.fresh { numbers := fun _ => 0 }) (c := Opposite.case) rfl (absurd hC) hok hpass
  have hne : Opposite.changed 0xaa ≠ Opposite.case := by decide +kernel
  obtain ⟨hok', hfail⟩ := h .s 31 0xaa (by decide) hne (.fresh { numbers := fun _ => 0 })
  have hverdict : (Passing.report (Opposite.changed 0xaa)).case.verdict = .fail := by
    decide +kernel
  exact ⟨rfl, hC, hok, hpass, hash, Q, hh, hQ, by decide, hne, hok', hverdict,
    hfail.1 hverdict⟩

/-- A change of one octet can pass. -/
theorem not_noticed_of_opposite :
    ¬ ∀ (L : Library) (s : Session (Slot L.values) Entropy) (c : TestCase),
      c.mode = .sigVer → (c.run (.slot _) L.backend s).result = .ok () →
      (c.run (.slot _) L.backend s).case.verdict = .pass →
      ∀ (part : Part) (i : Nat) (o : UInt8), part ≠ .message →
        c.onPart (·.set i o) part ≠ c →
        ((c.onPart (·.set i o) part).run (.slot _) L.backend s).result = .ok () ∧
          ((c.onPart (·.set i o) part).run (.slot _) L.backend s).case.verdict = .fail := by
  intro h
  obtain ⟨hok, hpass⟩ := Opposite.passes
  have hne : Opposite.changed 0xa9 ≠ Opposite.case := by decide +kernel
  obtain ⟨-, hfail⟩ := h .fixedWidth (.fresh { numbers := fun _ => 0 }) Opposite.case rfl hok hpass
    .s 31 0xa9 (by decide) hne
  have hverdict : (Passing.report (Opposite.changed 0xa9)).case.verdict = .pass := by
    decide +kernel
  cases hverdict.symm.trans hfail

end EcdsaVectors
