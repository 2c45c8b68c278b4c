/-
Reading, writing and checking by the textbook.

By right answers everything that is read is the number that is written in the octets, and what
is written are the octets of the number.  Nothing of this can fail, as long as no field is
empty.  A faithful backend comes to what can be reached by right answers, up to the values that
stand for those of the textbook, and so all this holds of it too.

* `Textbook.Reads`: a result that is a fault just where a field is empty;
* `Backend.Faithful.reads_checkKey`, `Backend.Faithful.reads_checkSignature`: a check comes to
  the verdict of the textbook, unless a field is empty;
* `Backend.Faithful.madeOn_of_generate`: the key that is made for a group is `MadeOn` the domain
  it is made for;
* `Backend.Faithful.exists_signs_of_makeSignature`: with such a key, what is written is a
  signature of the textbook, next to the point of the key.
-/
import EcdsaVectors.Proofs.Backend.Textbook
import EcdsaVectors.Proofs.Codec.Course
import EcdsaVectors.Proofs.Codec.Related
import EcdsaVectors.Proofs.Octets.Width
namespace EcdsaVectors

open Program

variable {V : Values} {σ α : Type} {domains : CurveName → Domain} {knows : CurveName → Bool}

/-! ## By right answers -/

namespace Textbook

/-- The result is a fault in the octets if a field is `empty`, and `a` otherwise. -/
def Reads (empty : Prop) (x : Except Fault α) (a : α) : Prop :=
  empty ∧ (∃ f, x = .error f ∧ f.kind = .encoding) ∨ ¬ empty ∧ x = .ok a

namespace Reads

variable {empty : Prop} {x : Except Fault α} {a b : α}

lemma eq_ok (h : Reads empty x a) (hne : ¬ empty) : x = .ok a := by
  rcases h with ⟨he, -⟩ | ⟨-, hx⟩
  · exact absurd he hne
  · exact hx

lemma exists_fault (h : Reads empty x a) (he : empty) : ∃ f, x = .error f ∧ f.kind = .encoding := by
  rcases h with ⟨-, hx⟩ | ⟨hne, -⟩
  · exact hx
  · exact absurd he hne

lemma of_ok (h : Reads empty (.ok b) a) : ¬ empty ∧ b = a := by
  rcases h with ⟨-, f, ⟨⟩, -⟩ | ⟨hne, ⟨⟩⟩
  exact ⟨hne, rfl⟩

end Reads

variable {D : Domain} {hash : HashName} {m qx qy r s : Octets}

/-! ### Reading and checking -/

/-- A scalar is refused only if it is empty. -/
lemma reaches_readScalar {b : Octets} {x : Except Fault BigInteger.values.Integer}
    (h : (Codec.readScalar b).Reaches (Right domains knows) x) :
    x = if b = [] then .error Codec.emptyScalar else .ok b.value := by
  cases x with
  | error f =>
    obtain ⟨P, hP, hnot⟩ := exists_check_of_error (Codec.keeps_readScalar b).ends
      (by simp [Codec.scalarRoute]) h
    obtain ⟨rfl, rfl⟩ := Codec.empty_of_mem_scalarRoute hP hnot
    rw [if_pos rfl]
  | ok n =>
    obtain ⟨_, ht, hright⟩ := h
    obtain ⟨hb, rfl⟩ := Codec.course_readScalar_ok.1 ht
    rw [if_neg hb]
    simpa [Right] using hright

/-- A signature is refused only if a component is empty. -/
lemma reaches_readSignature {x : Except Fault BigInteger.values.Signature}
    (h : (Codec.readSignature r s).Reaches (Right domains knows) x) :
    x = if r = [] ∨ s = [] then .error Codec.emptyScalar else .ok ⟨r.value, s.value⟩ := by
  cases x with
  | error f =>
    obtain ⟨P, hP, hnot⟩ := exists_check_of_error (Codec.keeps_readSignature r s).ends
      (by simp [Codec.scalarRoute]) h
    obtain ⟨hempty, rfl⟩ := Codec.empty_of_mem_signatureRoute hP hnot
    rw [if_pos hempty]
  | ok S =>
    obtain ⟨_, ht, hright⟩ := h
    obtain ⟨hne, i, j, rfl⟩ := Codec.course_readSignature_ok ht
    obtain ⟨rfl, rfl, rfl⟩ : i = r.value ∧ j = s.value ∧ S = ⟨i, j⟩ := by
      simpa [Right] using hright
    rw [if_neg (not_or.2 hne)]

/-- A public key is read where the textbook has one, and only there, unless a coordinate is
empty. -/
lemma reaches_readPoint {x : Except Fault (Option BigInteger.values.PublicKey)}
    (h : (Codec.readPoint (V := BigInteger.values) D qx qy).Reaches (Right domains knows) x) :
    Reads (qx = [] ∨ qy = []) x (D.publicKey? qx.value qy.value) := by
  cases x with
  | error f =>
    obtain ⟨P, hP, hnot⟩ := exists_check_of_error (Codec.keeps_readPoint D qx qy).ends
      (by simp [Codec.pointRoute]) h
    obtain ⟨hempty, hkind⟩ := Codec.empty_of_mem_pointRoute hP hnot
    exact .inl ⟨hempty, f, rfl, hkind⟩
  | ok k? =>
    obtain ⟨_, ht, hright⟩ := h
    obtain ⟨hne, i, j, rfl⟩ := Codec.course_readPoint_ok ht
    obtain ⟨rfl, rfl, rfl⟩ : i = qx.value ∧ j = qy.value ∧ k? = D.publicKey? i j := by
      simpa [Right] using hright
    exact .inr ⟨not_or.2 hne, rfl⟩

/-- A check of a public key comes to a verdict if no coordinate is empty, and this is whether
the textbook has the key. -/
lemma reaches_checkKey {x : Except Fault Output}
    (h : (checkKey (V := BigInteger.values) D qx qy).Reaches (Right domains knows) x) :
    Reads (qx = [] ∨ qy = []) x
      (.verdict (.ofBool (D.publicKey? qx.value qy.value).isSome)) := by
  cases x with
  | error f =>
    obtain ⟨P, hP, hnot⟩ := exists_check_of_error (ends_checkKey D qx qy)
      (by simp [Codec.pointRoute]) h
    obtain ⟨hempty, hkind⟩ := Codec.empty_of_mem_pointRoute hP hnot
    exact .inl ⟨hempty, f, rfl, hkind⟩
  | ok o =>
    obtain ⟨t, ht, hright⟩ := h
    obtain ⟨k?, hread, rfl⟩ := course_checkKey_ok ht
    obtain ⟨hne, rfl⟩ := (reaches_readPoint ⟨t, hread, hright⟩).of_ok
    exact .inr ⟨hne, rfl⟩

/-- A check of a signature comes to a verdict if neither a component nor a coordinate is
empty, and this is whether the textbook has the key and finds the signature valid. -/
lemma reaches_checkSignature {x : Except Fault Output} (h : (checkSignature
      (V := BigInteger.values) D hash m qx qy r s).Reaches (Right domains knows) x) :
    Reads ((r = [] ∨ s = []) ∨ qx = [] ∨ qy = []) x
      (.verdict (.ofBool ((D.publicKey? qx.value qy.value).any fun Q =>
        BigInteger.finding Q hash m ⟨r.value, s.value⟩ = .valid))) := by
  cases x with
  | error f =>
    obtain ⟨P, hP, hnot⟩ := exists_check_of_error (ends_checkSignature D hash m qx qy r s)
      (by simp [Codec.scalarRoute, Codec.pointRoute]) h
    rcases List.mem_append.1 hP with hP | hP
    · obtain ⟨hempty, rfl⟩ := Codec.empty_of_mem_signatureRoute hP hnot
      exact .inl ⟨.inl hempty, _, rfl, rfl⟩
    · have hmem : .check P f ∈ Codec.pointRoute (V := BigInteger.values) qx qy := by
        simpa [Station.any] using hP
      obtain ⟨hempty, hkind⟩ := Codec.empty_of_mem_pointRoute hmem hnot
      exact .inl ⟨.inr hempty, f, rfl, hkind⟩
  | ok o =>
    obtain ⟨t, ht, hright⟩ := h
    obtain ⟨S, u, v, hu, hend⟩ := course_checkSignature_ok ht
    -- the signature has been read before anything else
    have hread (hright : ∀ e ∈ u, e.Fits (Right domains knows)) :
        ¬ (r = [] ∨ s = []) ∧ S = ⟨r.value, s.value⟩ := by
      have hS := reaches_readSignature ⟨u, hu, hright⟩
      split at hS
      · cases hS
      · next hne => exact ⟨hne, Except.ok.inj hS⟩
    rcases hend with ⟨hv, rfl, rfl⟩ | ⟨Q, valid, hv, rfl, rfl⟩
    · obtain ⟨hrightu, hrightv⟩ := List.forall_mem_append.1 hright
      obtain ⟨hne, -⟩ := hread hrightu
      obtain ⟨hpoint, hQ⟩ := (reaches_readPoint ⟨v, hv, hrightv⟩).of_ok
      rw [← hQ]
      exact .inr ⟨not_or.2 ⟨hne, hpoint⟩, rfl⟩
    · obtain ⟨hrightuv, hverify⟩ := List.forall_mem_append.1 hright
      obtain ⟨hrightu, hrightv⟩ := List.forall_mem_append.1 hrightuv
      obtain ⟨hne, rfl⟩ := hread hrightu
      obtain rfl : valid = decide (BigInteger.finding Q hash m ⟨r.value, s.value⟩ = .valid) := by
        simpa [Right] using hverify
      obtain ⟨hpoint, hQ⟩ := (reaches_readPoint ⟨v, hv, hrightv⟩).of_ok
      rw [← hQ]
      exact .inr ⟨not_or.2 ⟨hne, hpoint⟩, rfl⟩

/-! ### Writing -/

lemma reaches_writeInteger {n : Nat} {x : Except Fault Octets}
    (h : (Codec.writeInteger (V := BigInteger.values) n).Reaches (Right domains knows) x) :
    x = .ok (Octets.ofNat n) := by
  obtain ⟨a, rfl, h⟩ := reaches_ask.1 h
  exact reaches_pure.1 h

/-- Two numbers that come of right answers are written without fail. -/
lemma reaches_bind_writeIntegers {p : Program BigInteger.values (Nat × Nat)} {n k : Nat}
    (hp : ∀ y, p.Reaches (Right domains knows) y → y = .ok (n, k))
    {x : Except Fault (Octets × Octets)}
    (h : (p >>= Codec.writeIntegers (V := BigInteger.values)).Reaches (Right domains knows) x) :
    x = .ok (Octets.ofNat n, Octets.ofNat k) := by
  obtain ⟨t, ht, hright⟩ := h
  cases x with
  | error f => cases hp _ ⟨t, Codec.course_bind_writeIntegers_error ht, hright⟩
  | ok q =>
    obtain ⟨i, j, u, hu, rfl⟩ := Codec.course_bind_writeIntegers_ok ht
    obtain ⟨hbefore, hwritten⟩ := List.forall_mem_append.1 hright
    obtain ⟨rfl, rfl⟩ := Prod.mk.inj (Except.ok.inj (hp _ ⟨u, hu, hbefore⟩))
    obtain ⟨hi, hj⟩ : q.1 = Octets.ofNat i ∧ q.2 = Octets.ofNat j := by
      simpa [Right] using hwritten
    rw [← hi, ← hj]

lemma reaches_writePoint {Q : PublicKey} {x : Except Fault (Octets × Octets)}
    (h : (Codec.writePoint (V := BigInteger.values) Q).Reaches (Right domains knows) x) :
    x = .ok (Octets.ofNat Q.coordinates.1, Octets.ofNat Q.coordinates.2) := by
  refine reaches_bind_writeIntegers (fun y hy => ?_) h
  obtain ⟨_, ht, hright⟩ := hy
  obtain ⟨a, rfl, rfl⟩ := course_queryOk.1 ht
  simpa [Right] using hright

lemma reaches_writeSignature {T : Signature} {x : Except Fault (Octets × Octets)}
    (h : (Codec.writeSignature (V := BigInteger.values) T).Reaches (Right domains knows) x) :
    x = .ok (Octets.ofNat T.r, Octets.ofNat T.s) := by
  refine reaches_bind_writeIntegers (fun y hy => ?_) h
  obtain ⟨_, ht, hright⟩ := hy
  obtain ⟨a, rfl, rfl⟩ := course_queryOk.1 ht
  simpa [Right] using hright

/-! ### Making keys and signatures -/

/-- The key that is made for a group has a pair of the domain, with its point next to it. -/
lemma proper_of_reaches_generate {g : UInt32} {k : GroupKey BigInteger.values}
    (h : (GroupKey.generate (V := BigInteger.values) g D).Reaches (Right domains knows) (.ok k)) :
    ∃ p : KeyPair, k.pair = p ∧ p.Proper ∧ p.key.domain = D ∧
      k.qx = Octets.ofNat p.key.coordinates.1 ∧ k.qy = Octets.ofNat p.key.coordinates.2 := by
  obtain ⟨_, ht, hright⟩ := h
  obtain ⟨-, key, u, rfl, hu⟩ := GroupKey.course_generate_ok ht
  obtain ⟨hpair, hkey, hwrite⟩ : (∀ p : KeyPair, k.pair = p → p.key.domain = D ∧ p.Proper) ∧
      key = KeyPair.key k.pair ∧ ∀ e ∈ u, e.Fits (Right domains knows) := by
    simpa [Right] using hright
  obtain ⟨hdomain, hproper⟩ := hpair _ rfl
  subst hkey
  obtain ⟨hx, hy⟩ := Prod.mk.inj (Except.ok.inj (reaches_writePoint ⟨u, hu, hwrite⟩))
  exact ⟨_, rfl, hproper, hdomain, hx, hy⟩

/-- What is written is a signature of the pair of the key. -/
lemma signs_of_reaches_makeSignature {k : GroupKey BigInteger.values} {o : Output}
    (h : (makeSignature k hash m).Reaches (Right domains knows) (.ok o)) :
    ∃ T : Signature, KeyPair.Signs k.pair hash m T ∧
      o = .signature (Octets.ofNat T.r) (Octets.ofNat T.s) k.qx k.qy := by
  obtain ⟨_, ht, hright⟩ := h
  obtain ⟨T, x, y, r, s, rfl, rfl⟩ := course_makeSignature_ok ht
  obtain ⟨hsigns, ⟨rfl, rfl⟩, rfl, rfl⟩ : KeyPair.Signs k.pair hash m T ∧
      (x = Signature.r T ∧ y = Signature.s T) ∧ r = Octets.ofNat x ∧ s = Octets.ofNat y := by
    simpa [Right] using hright
  exact ⟨T, hsigns, rfl⟩

end Textbook

/-! ## On faithful backends -/

/-- A group key whose pair is one of a domain, with the point as it is written. -/
def GroupKey.MadeOn (M : Meaning V) (D : Domain) (k : GroupKey V) : Prop :=
  ∃ p : KeyPair, M.keyPair k.pair p ∧ p.Proper ∧ p.key.domain = D ∧
    k.qx = Octets.ofNat p.key.coordinates.1 ∧ k.qy = Octets.ofNat p.key.coordinates.2

namespace Backend.Faithful

open Textbook

variable {B : Backend V σ} {M : Meaning V} (hB : B.Faithful M domains knows)

include hB

/-- What a program comes to can be reached by right answers, if it holds no values. -/
lemma reaches_result {p : Program V α} {q : Program BigInteger.values α}
    (h : Related M.correspondence Eq p q) (t : σ) :
    q.Reaches (Right domains knows) (p.run B t).result := by
  obtain ⟨x, hx, hresult⟩ := h.exists_reaches hB.meets t
  rwa [hresult.eq]

/-! ### Names -/

lemma of_lookUpCurve {name : CurveName} {c : V.Curve} {t : σ}
    (h : ((Codec.lookUpCurve name).run B t).result = .ok c) :
    knows name = true ∧ M.curve c (domains name) := by
  have hcourse := course_run B (Codec.lookUpCurve name) t
  rw [h, Codec.course_lookUpCurve_ok] at hcourse
  obtain ⟨b, hb⟩ := exists_respond_of_requests hcourse List.mem_cons_self
  cases hk : knows name with
  | false => cases (hB.noCurve b hk).symm.trans hb
  | true =>
    obtain ⟨c', hc', hmeaning⟩ := hB.curve b hk
    obtain rfl := Option.some.inj (hc'.symm.trans hb)
    exact ⟨rfl, hmeaning⟩

/-- A curve that is known is found. -/
lemma exists_lookUpCurve {name : CurveName} (hk : knows name = true) (t : σ) :
    ∃ c, ((Codec.lookUpCurve name).run B t).result = .ok c ∧ M.curve c (domains name) := by
  obtain ⟨c, ho, hc⟩ := hB.curve t hk
  exact ⟨c, Codec.result_lookUpCurve ho, hc⟩

/-! ### Reading and checking -/

lemma sameResult_readScalar (b : Octets) (t : σ) :
    SameResult M.integer ((Codec.readScalar b).run B t).result
      (if b = [] then .error Codec.emptyScalar else .ok b.value) := by
  obtain ⟨x, hx, hresult⟩ := (Codec.related_readScalar b).exists_reaches hB.meets t
  rwa [reaches_readScalar hx] at hresult

lemma sameResult_readSignature (r s : Octets) (t : σ) :
    SameResult M.signature ((Codec.readSignature r s).run B t).result
      (if r = [] ∨ s = [] then .error Codec.emptyScalar else .ok ⟨r.value, s.value⟩) := by
  obtain ⟨x, hx, hresult⟩ := (Codec.related_readSignature r s).exists_reaches hB.meets t
  rwa [reaches_readSignature hx] at hresult

variable {c : V.Curve} {D : Domain} {h : V.Digest} {hash : HashName} {t : σ}

/-- A public key is read where the textbook has one, and only there, unless a coordinate is
empty. -/
lemma reads_readPoint (hc : M.curve c D) (qx qy : Octets) (t : σ) :
    ∃ x, Reads (qx = [] ∨ qy = []) x (D.publicKey? qx.value qy.value) ∧
      SameResult (Option.Rel M.publicKey) ((Codec.readPoint c qx qy).run B t).result x := by
  obtain ⟨x, hx, hresult⟩ := (Codec.related_readPoint hc qx qy).exists_reaches hB.meets t
  exact ⟨x, reaches_readPoint hx, hresult⟩

lemma exists_readPoint (hc : M.curve c D) {qx qy : Octets} {Q : PublicKey} (hx : qx ≠ [])
    (hy : qy ≠ []) (hQ : D.publicKey? qx.value qy.value = some Q) (t : σ) :
    ∃ k, ((Codec.readPoint c qx qy).run B t).result = .ok (some k) ∧ M.publicKey k Q := by
  obtain ⟨x, hreads, hresult⟩ := hB.reads_readPoint hc qx qy t
  rw [hQ] at hreads
  obtain rfl := hreads.eq_ok (not_or.2 ⟨hx, hy⟩)
  obtain ⟨k?, hresult, hk⟩ := hresult.exists_ok
  cases hk with
  | some hk => exact ⟨_, hresult, hk⟩

/-- A check of a public key comes to a verdict if no coordinate is empty, and this is whether
the textbook has the key. -/
lemma reads_checkKey (hc : M.curve c D) (qx qy : Octets) (t : σ) :
    Reads (qx = [] ∨ qy = []) ((checkKey c qx qy).run B t).result
      (.verdict (.ofBool (D.publicKey? qx.value qy.value).isSome)) := by
  have hright := hB.reaches_result (related_checkKey hc qx qy) t
  exact reaches_checkKey hright

/-- A check of a signature comes to a verdict if neither a component nor a coordinate is
empty, and this is whether the textbook has the key and finds the signature valid. -/
lemma reads_checkSignature (hc : M.curve c D) (hh : M.digest h hash) (m qx qy r s : Octets)
    (t : σ) :
    Reads ((r = [] ∨ s = []) ∨ qx = [] ∨ qy = [])
      ((checkSignature c h m qx qy r s).run B t).result
      (.verdict (.ofBool ((D.publicKey? qx.value qy.value).any fun Q =>
        BigInteger.finding Q hash m ⟨r.value, s.value⟩ = .valid))) := by
  have hright := hB.reaches_result (related_checkSignature hc hh m qx qy r s) t
  exact reaches_checkSignature hright

/-! ### Writing -/

lemma result_writeInteger {i : V.Integer} {n : Nat} (hi : M.integer i n) (t : σ) :
    ((Codec.writeInteger i).run B t).result = .ok (Octets.ofNat n) := by
  have hright := hB.reaches_result (Codec.related_writeInteger hi) t
  exact reaches_writeInteger hright

lemma result_writePoint {k : V.PublicKey} {Q : PublicKey} (hk : M.publicKey k Q) (t : σ) :
    ((Codec.writePoint k).run B t).result =
      .ok (Octets.ofNat Q.coordinates.1, Octets.ofNat Q.coordinates.2) := by
  have hright := hB.reaches_result (Codec.related_writePoint hk) t
  exact reaches_writePoint hright

lemma result_writeSignature {S : V.Signature} {T : Signature} (hS : M.signature S T) (t : σ) :
    ((Codec.writeSignature S).run B t).result = .ok (Octets.ofNat T.r, Octets.ofNat T.s) := by
  have hright := hB.reaches_result (Codec.related_writeSignature hS) t
  exact reaches_writeSignature hright

/-! ### Making keys and signatures -/

/-- **The key that is made for a group is one of the domain**, and its point is written with
it. -/
lemma madeOn_of_generate (hc : M.curve c D) {group : UInt32} {k : GroupKey V}
    (hk : ((GroupKey.generate group c).run B t).result = .ok k) : k.MadeOn M D := by
  obtain ⟨x, hx, hresult⟩ := (GroupKey.related_generate group hc).exists_reaches hB.meets t
  rw [hk] at hresult
  cases hresult with
  | ok hrelated =>
    obtain ⟨p, hp, hproper, hdomain, hqx, hqy⟩ := proper_of_reaches_generate hx
    refine ⟨p, hp ▸ hrelated.pair, hproper, hdomain, ?_, ?_⟩
    · rw [hrelated.qx, hqx]
    · rw [hrelated.qy, hqy]

/-- **What is written is a signature of the textbook**, next to the point of the key. -/
lemma exists_signs_of_makeSignature {k : GroupKey V} (hk : k.MadeOn M D)
    (hh : M.digest h hash) {m : Octets} {o : Output}
    (ho : ((makeSignature k h m).run B t).result = .ok o) :
    ∃ (p : KeyPair) (T : Signature), p.Proper ∧ p.key.domain = D ∧ p.Signs hash m T ∧
      o = .signature (Octets.ofNat T.r) (Octets.ofNat T.s)
        (Octets.ofNat p.key.coordinates.1) (Octets.ofNat p.key.coordinates.2) := by
  obtain ⟨p, hpair, hp, hD, hqx, hqy⟩ := hk
  have hkey : k.Related M.correspondence ⟨k.group, p, k.qx, k.qy⟩ := ⟨rfl, hpair, rfl, rfl⟩
  have hreaches := hB.reaches_result (related_makeSignature hkey hh m) t
  rw [ho] at hreaches
  obtain ⟨T, hsigns, rfl⟩ := signs_of_reaches_makeSignature hreaches
  rw [hqx, hqy]
  exact ⟨p, T, hp, hD, hsigns, rfl⟩

end Backend.Faithful

end EcdsaVectors
