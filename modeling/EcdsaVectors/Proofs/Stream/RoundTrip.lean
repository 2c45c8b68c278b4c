/-
Signatures that are made in a stream are valid.

A signature is made with the key that is in the slot, whichever step has put it there.  So it
is a signature on the curve that this step has named, which the history of the stream tells
(`Moment.keptCurve`), and not on the curve of the case: the slot asks for the group only.

* `sigVer_of_sigGen`: checked on the curve of the key, the signature passes on either backend
  that knows the curve;
* `holdsOn_of_sigGen`: checked on the curve of the case, it passes if this is the curve of the
  key;
* `holdsOn_of_curveByGroup`: this is so if the cases of each group name one curve;
* `not_holdsOn_of_sigGen`: otherwise the point that is written need not even be one of the
  curve.
-/
import EcdsaVectors.Proofs.Backend.Library
import EcdsaVectors.Proofs.Domain.Standard
import EcdsaVectors.Proofs.Stream.History
namespace EcdsaVectors

open Program

variable {V W : Values} {κ σ τ : Type}

/-- The check of the signature in a case, on a curve. -/
def TestCase.checkOn (c : TestCase) (C : CurveName) : TestCase :=
  { c with mode := .sigVer, curve := C }

lemma Session.exists_of_mem_history {B : Backend V σ} {s : Session (Slot V) σ}
    {curve : Option CurveName} {steps : List Step} {m : Moment V σ}
    (hm : m ∈ s.history B curve steps) : ∃ t, m.report = m.step.perform B t := by
  induction steps generalizing s curve with
  | nil => simp [Session.history] at hm
  | cons step steps ih =>
    rcases List.mem_cons.1 hm with rfl | hm
    · exact ⟨s, rfl⟩
    · exact ih hm

/-- A case that holds a signature of the textbook, made with a key pair of a domain, next to
the point of the key. -/
structure TestCase.SignedOn (c : TestCase) (D : Domain) (hash : HashName) (p : KeyPair)
    (T : Signature) : Prop where
  named : c.hash = some hash
  proper : p.Proper
  domain : p.key.domain = D
  signs : p.Signs hash c.message T
  qx : c.qx = Octets.ofNat p.key.coordinates.1
  qy : c.qy = Octets.ofNat p.key.coordinates.2
  r : c.r = Octets.ofNat T.r
  s : c.s = Octets.ofNat T.s

namespace TestCase.SignedOn

variable {c : TestCase} {D : Domain} {hash : HashName} {p : KeyPair} {T : Signature}

lemma publicKey?_eq (h : c.SignedOn D hash p T) (hD : D.Lawful) :
    D.publicKey? c.qx.value c.qy.value = some p.key := by
  rw [h.qx, h.qy, Octets.value_ofNat, Octets.value_ofNat]
  exact hD.publicKey?_coordinates h.proper h.domain

lemma finding_eq (h : c.SignedOn D hash p T) (hD : D.Lawful) :
    BigInteger.finding p.key hash c.message ⟨c.r.value, c.s.value⟩ = .valid := by
  rw [h.r, h.s, Octets.value_ofNat, Octets.value_ofNat]
  exact hD.finding_eq_valid h.proper h.domain h.signs

/-- The components of the signature are not zero, and so they have octets. -/
lemma components_ne_nil (h : c.SignedOn D hash p T) : c.r ≠ [] ∧ c.s ≠ [] := by
  obtain ⟨k, -, -, hS⟩ := h.signs
  obtain ⟨x, y, -, -, -, hr, hs⟩ := Domain.sign_eq_some hS
  rw [h.r, h.s, Ne, Ne, Octets.ofNat_eq_nil, Octets.ofNat_eq_nil]
  omega

end TestCase.SignedOn

namespace Backend.Faithful

variable {B : Backend V σ} {M : Meaning V} {domains : CurveName → Domain}
  {knows : CurveName → Bool} (hB : B.Faithful M domains knows)

include hB

/-- **A case for which a signature has been made holds one of the curve of the key.** -/
theorem signedOn_of_history {s : Session (Slot V) σ} {curve : Option CurveName}
    (h : s.keys.Kept B curve) {steps : List Step} {m : Moment V σ}
    (hm : m ∈ s.history B curve steps) {c c' : TestCase} (hc : m.step = .run c)
    (hmode : c.mode = .sigGen) (hok : m.report.result = .ran (.ok ()) c') :
    ∃ k C hash p T, m.report.session.keys = some k ∧ k.group = c.group ∧
      m.keptCurve = some C ∧ knows C = true ∧ c'.SignedOn (domains C) hash p T := by
  obtain ⟨t, ht⟩ := Session.exists_of_mem_history hm
  have hkept := Session.kept_history h steps m hm
  rw [hc] at ht
  rw [ht] at hok hkept
  obtain ⟨hresult, rfl⟩ := StepResult.ran.inj hok
  -- the key that the signature is made with is the one that the history knows of
  obtain ⟨k, hk, hgroup, hsigned⟩ := hB.run_sigGen_ok hmode hresult
  change Slot.Kept B (c.run (.slot V) B t).session.keys m.keptCurve at hkept
  rw [hk] at hkept
  cases hC : m.keptCurve with
  | none =>
    rw [hC] at hkept
    cases hkept
  | some C =>
    rw [hC] at hkept
    obtain ⟨hmade⟩ := hkept
    obtain ⟨hknows, hon⟩ := hB.madeOn_of_madeBy hmade
    obtain ⟨hash, p, T, hhash, hp, hD, hsigns, hcase⟩ := hsigned _ hon
    refine ⟨k, C, hash, p, T, ?_, hgroup, rfl, hknows, ?_⟩
    · rw [ht]
      exact hk
    · rw [hcase]
      exact ⟨hhash, hp, hD, hsigns, rfl, rfl, rfl, rfl⟩

theorem run_checkOn {c : TestCase} {C : CurveName} {hash : HashName} {p : KeyPair}
    {T : Signature} (h : c.SignedOn (domains C) hash p T) (hknows : knows C = true)
    (hD : (domains C).Lawful) (hx : c.qx ≠ []) (hy : c.qy ≠ []) (K : KeyStore V κ)
    (s : Session κ σ) :
    ((c.checkOn C).run K B s).result = .ok () ∧
      ((c.checkOn C).run K B s).case.verdict = .pass := by
  obtain ⟨hr, hs⟩ := h.components_ne_nil
  obtain ⟨hok, hverdict⟩ := hB.run_sigVer (c := c.checkOn C) hknows rfl h.named hx hy hr hs K s
  have hkey : (domains (c.checkOn C).curve).publicKey? (c.checkOn C).qx.value
      (c.checkOn C).qy.value = some p.key := h.publicKey?_eq hD
  refine ⟨hok, ?_⟩
  rw [hverdict, Verdict.ofBool_eq_pass, hkey, Option.any_some, decide_eq_true_iff]
  exact h.finding_eq hD

end Backend.Faithful

/-! ## Two cases of one group -/

lemma Session.exists_mem_history_pair {B : Backend V σ} {s t : Session (Slot V) σ}
    {c₁ c₂ : TestCase} {r : Report V (Slot V) σ} (ht : (c₁.run (.slot V) B s).session = t)
    (hr : c₂.run (.slot V) B t = r) (curve : Option CurveName) :
    ∃ m ∈ s.history B curve [.run c₁, .run c₂], m.step = .run c₂ ∧
      m.report.result = .ran r.result r.case ∧
      m.keptCurve = (Step.run c₂).keptCurve t.keys r.session.keys
        ((Step.run c₁).keptCurve s.keys t.keys curve) := by
  subst ht hr
  exact ⟨_, .tail _ (.head _), rfl, rfl, rfl⟩

namespace Crossing

/-- A case of the group one that asks for a signature on a curve. -/
def case (C : CurveName) : TestCase :=
  { mode := .sigGen, group := 1, number := 1, curve := C, hash := some .sha256 }

/-- A session that has just begun, in which each key is the smallest. -/
def start : Session (Slot BigInteger.values) Entropy :=
  .fresh { numbers := fun _ => 0 }

/-- The session in which such a case has been run on the curve of 256 bits. -/
def session : Session (Slot BigInteger.values) Entropy :=
  ((case .p256).run (.slot _) Library.bigInteger.backend start).session

/-- The run of such a case in this session. -/
def report (C : CurveName) : Report BigInteger.values (Slot BigInteger.values) Entropy :=
  (case C).run (.slot _) Library.bigInteger.backend session

end Crossing

/-! ## The two backends -/

variable {L : Library} {E : Entropy} {steps : List Step} {m : Moment L.values Entropy}
  {c c' : TestCase}

/-- **A signature that is made in a stream is valid on the curve of the key.**  In every
stream of steps on either backend, from the beginning on, each run that makes a signature
leaves a key of some curve in the slot.  If the points of this curve form a group and the
point of the key has no zero coordinate, then the signature passes when it is checked on this
curve, on the same backend and on each other that knows the curve. -/
theorem sigVer_of_sigGen (hm : m ∈ (Session.fresh E).history L.backend none steps)
    (hc : m.step = .run c) (hmode : c.mode = .sigGen)
    (hok : m.report.result = .ran (.ok ()) c') :
    ∃ C, m.keptCurve = some C ∧ ((Domain.standard C).Lawful → c'.qx ≠ [] → c'.qy ≠ [] →
      ∀ L' : Library, L' = L ∨ C = .p256 ∨ C = .p384 → ∀ E' : Entropy,
        let report := (c'.checkOn C).run (.slot _) L'.backend (.fresh E')
        report.result = .ok () ∧ report.case.verdict = .pass) := by
  obtain ⟨-, C, hash, p, T, -, -, hC, hknows, hsigned⟩ :=
    L.faithful.signedOn_of_history (.fresh E) hm hc hmode hok
  refine ⟨C, hC, fun hD hx hy L' hL' E' => ?_⟩
  have hknows' : L'.knows C = true := by
    rcases hL' with rfl | hL'
    · exact hknows
    · exact Library.knows_of_eq_p256_or_p384 hL' L'
  exact L'.faithful.run_checkOn hsigned hknows' hD hx hy _ _

/-- Where the key is one of the curve of 256 bits and the case names the curve of 384 bits,
the signature passes on the former, on both backends. -/
theorem sigVer_of_crossing :
    ∃ m ∈ Crossing.start.history Library.bigInteger.backend none
        [.run (Crossing.case .p256), .run (Crossing.case .p384)],
      m.step = .run (Crossing.case .p384) ∧ (Crossing.case .p384).mode = .sigGen ∧
      m.report.result = .ran (.ok ()) (Crossing.report .p384).case ∧
      m.keptCurve = some .p256 ∧ ∀ (L : Library) (E : Entropy),
        let report := ((Crossing.report .p384).case.checkOn .p256).run (.slot _) L.backend
          (.fresh E)
        report.result = .ok () ∧ report.case.verdict = .pass := by
  obtain ⟨m, hm, hstep, hresult, hkept⟩ := Session.exists_mem_history_pair
    (t := Crossing.session) (r := Crossing.report .p384) rfl rfl none
  obtain ⟨hok, hx, hy, hcurve⟩ : (Crossing.report .p384).result = .ok () ∧
      (Crossing.report .p384).case.qx ≠ [] ∧ (Crossing.report .p384).case.qy ≠ [] ∧
      (Step.run (Crossing.case .p384)).keptCurve Crossing.session.keys
        (Crossing.report .p384).session.keys ((Step.run (Crossing.case .p256)).keptCurve
          Crossing.start.keys Crossing.session.keys none) = some .p256 := by
    decide +kernel
  rw [hok] at hresult
  rw [hcurve] at hkept
  obtain ⟨C, hC, hpass⟩ := sigVer_of_sigGen hm hstep rfl hresult
  obtain rfl : C = .p256 := Option.some.inj (hC.symm.trans hkept)
  exact ⟨m, hm, hstep, rfl, hresult, hC, fun L E =>
    hpass Domain.lawful_p256 hx hy L (.inr (.inl rfl)) E⟩

/-! ## The curve of the case -/

/-- The point in a case is a valid one of a curve, and the signature in it passes there. -/
def TestCase.HoldsOn (c : TestCase) (L : Library) (C : CurveName) : Prop :=
  ∀ E : Entropy,
    (∃ key, ((Codec.lookUpCurve C >>= fun cv => Codec.readPoint cv c.qx c.qy).run
      L.backend E).result = .ok (some key)) ∧
    let report := (c.checkOn C).run (.slot _) L.backend (.fresh E)
    report.result = .ok () ∧ report.case.verdict = .pass

lemma TestCase.SignedOn.holdsOn {C : CurveName} {hash : HashName} {p : KeyPair}
    {T : Signature} (h : c.SignedOn (.standard C) hash p T) (hknows : L.knows C = true)
    (hD : (Domain.standard C).Lawful) (hx : c.qx ≠ []) (hy : c.qy ≠ []) : c.HoldsOn L C := by
  intro E
  refine ⟨?_, L.faithful.run_checkOn h hknows hD hx hy _ _⟩
  obtain ⟨cv, hlookUp, hcv⟩ := L.faithful.exists_lookUpCurve hknows E
  obtain ⟨key, hkey, -⟩ := L.faithful.exists_readPoint hcv hx hy (h.publicKey?_eq hD)
    ((Codec.lookUpCurve C).run L.backend E).state
  refine ⟨key, ?_⟩
  rw [result_bind, hlookUp]
  exact hkey

/-- **A signature that is made in a stream with one curve for each group is valid on the curve
of the case**, and so is the point next to it. -/
theorem holdsOn_of_curveByGroup {curves : UInt32 → CurveName} (hsteps : CurveByGroup curves steps)
    (hm : m ∈ (Session.fresh E).history L.backend none steps) (hc : m.step = .run c)
    (hmode : c.mode = .sigGen) (hok : m.report.result = .ran (.ok ()) c') (hx : c'.qx ≠ [])
    (hy : c'.qy ≠ []) (hD : (Domain.standard c.curve).Lawful) : c'.HoldsOn L c.curve := by
  obtain ⟨k, C, hash, p, T, hk, hgroup, hC, hknows, hsigned⟩ :=
    L.faithful.signedOn_of_history (.fresh E) hm hc hmode hok
  have hstep : Step.run c ∈ steps := by
    rw [← Session.history_map_step L.backend (.fresh E) none steps, ← hc]
    exact List.mem_map_of_mem hm
  have hcurve : c.curve = curves c.group := Option.some.inj (hsteps _ hstep _ (if_pos hmode))
  -- the key in the slot is one of the group, and so it is one of the curve of the group
  have hkept := Session.keptCurve_history L.backend rfl hsteps m hm
  rw [hC, hk, Option.map_some, hgroup, ← hcurve] at hkept
  obtain rfl := Option.some.inj hkept
  exact hsigned.holdsOn hknows hD hx hy

/-- **A signature that is made in a stream is valid on the curve of the case**, and so is the
point next to it, if this is the curve of the key in the slot: the one that was named by the
step that has filled the slot. -/
theorem holdsOn_of_sigGen (hm : m ∈ (Session.fresh E).history L.backend none steps)
    (hc : m.step = .run c) (hmode : c.mode = .sigGen)
    (hok : m.report.result = .ran (.ok ()) c') (hx : c'.qx ≠ []) (hy : c'.qy ≠ [])
    (hcurve : m.keptCurve = some c.curve) (hD : (Domain.standard c.curve).Lawful) :
    c'.HoldsOn L c.curve := by
  obtain ⟨-, C, hash, p, T, -, -, hC, hknows, hsigned⟩ :=
    L.faithful.signedOn_of_history (.fresh E) hm hc hmode hok
  obtain rfl : C = c.curve := Option.some.inj (hC.symm.trans hcurve)
  exact hsigned.holdsOn hknows hD hx hy

theorem holdsOn_of_same :
    ∃ m ∈ Crossing.start.history Library.bigInteger.backend none
        [.run (Crossing.case .p256), .run (Crossing.case .p256)],
      m.step = .run (Crossing.case .p256) ∧ (Crossing.case .p256).mode = .sigGen ∧
      m.report.result = .ran (.ok ()) (Crossing.report .p256).case ∧
      (Crossing.report .p256).case.qx ≠ [] ∧ (Crossing.report .p256).case.qy ≠ [] ∧
      m.keptCurve = some (Crossing.case .p256).curve ∧
      (Domain.standard (Crossing.case .p256).curve).Lawful ∧
      (Crossing.report .p256).case.HoldsOn .bigInteger (Crossing.case .p256).curve := by
  obtain ⟨m, hm, hstep, hresult, hkept⟩ := Session.exists_mem_history_pair
    (t := Crossing.session) (r := Crossing.report .p256) rfl rfl none
  obtain ⟨hok, hx, hy, hcurve⟩ : (Crossing.report .p256).result = .ok () ∧
      (Crossing.report .p256).case.qx ≠ [] ∧ (Crossing.report .p256).case.qy ≠ [] ∧
      (Step.run (Crossing.case .p256)).keptCurve Crossing.session.keys
        (Crossing.report .p256).session.keys ((Step.run (Crossing.case .p256)).keptCurve
          Crossing.start.keys Crossing.session.keys none) = some .p256 := by
    decide +kernel
  rw [hok] at hresult
  rw [hcurve] at hkept
  exact ⟨m, hm, hstep, rfl, hresult, hx, hy, hkept, Domain.lawful_p256,
    holdsOn_of_sigGen hm hstep rfl hresult hx hy hkept Domain.lawful_p256⟩

/-- The curve of the key need not be that of the case, since the slot asks for the group
only.  Then the point that is written need not be a valid one of the curve of the case, on
however lawful a domain. -/
theorem not_holdsOn_of_sigGen :
    ¬ ∀ (L : Library) (E : Entropy) (steps : List Step) (m : Moment L.values Entropy)
      (c c' : TestCase), m ∈ (Session.fresh E).history L.backend none steps →
      m.step = .run c → c.mode = .sigGen → m.report.result = .ran (.ok ()) c' →
      c'.qx ≠ [] → c'.qy ≠ [] → (Domain.standard c.curve).Lawful → c'.HoldsOn L c.curve := by
  intro h
  obtain ⟨hok, hx, hy, hpoint⟩ : (Crossing.report .p384).result = .ok () ∧
      (Crossing.report .p384).case.qx ≠ [] ∧ (Crossing.report .p384).case.qy ≠ [] ∧
      ((Codec.lookUpCurve .p384 >>= fun cv => Codec.readPoint cv
        (Crossing.report .p384).case.qx (Crossing.report .p384).case.qy).run
          Library.bigInteger.backend { numbers := fun _ => 0 }).result = .ok none := by
    decide +kernel
  obtain ⟨m, hm, hstep, hresult, -⟩ := Session.exists_mem_history_pair
    (t := Crossing.session) (r := Crossing.report .p384) rfl rfl none
  rw [hok] at hresult
  have hholds := h .bigInteger _ _ m _ _ hm hstep rfl hresult hx hy Domain.lawful_p384
  obtain ⟨⟨key, hkey⟩, -⟩ := hholds { numbers := fun _ => 0 }
  -- the point of the curve of 256 bits is not one of the other curve
  have hnone := hpoint.symm.trans hkey
  cases hnone

end EcdsaVectors
