/-
Reading, writing and making with other values.

No program looks into the values of a backend, so each of them does the same with values that
correspond.  This is told of each program once, for any correspondence.
-/
import EcdsaVectors.Run
import EcdsaVectors.Proofs.Program.Related
namespace EcdsaVectors

open Program

variable {V W : Values} {R : Correspondence V W}

/-! ## Reading and writing -/

namespace Codec

lemma related_lookUpCurve (name : CurveName) :
    Related R R.curve (lookUpCurve name) (lookUpCurve name) := by
  refine (Related.query (.curve name)).bind fun c? c'? h => ?_
  cases h with
  | none => exact .refuse _ _
  | some h => exact .pure h

lemma related_lookUpHash (hash : Option HashName) :
    Related R R.digest (lookUpHash hash) (lookUpHash hash) := by
  cases hash with
  | none => exact .refuse _ _
  | some name =>
    refine (Related.query (.digest name)).bind fun h? h'? h => ?_
    cases h with
    | none => exact .refuse _ _
    | some h => exact .pure h

lemma related_integerOfOctets (b : Octets) :
    Related R R.integer (query (.integerOfOctets b) >>= ofAnswer)
      (query (.integerOfOctets b) >>= ofAnswer) :=
  .queryOk (.integerOfOctets b) fun _ _ h => h

lemma related_readScalar (b : Octets) : Related R R.integer (readScalar b) (readScalar b) := by
  unfold readScalar
  split
  · exact .refuse _ _
  · exact related_integerOfOctets b

lemma related_readSignature (r s : Octets) :
    Related R R.signature (readSignature r s) (readSignature r s) := by
  refine (related_readScalar r).bind fun i i' hi => ?_
  refine (related_readScalar s).bind fun j j' hj => ?_
  exact .queryOk (.signatureOfComponents hi hj) fun _ _ h => h

/-- A public key is read from the same octets on both sides, or refused for the same one. -/
lemma related_readPoint {c : V.Curve} {c' : W.Curve} (hc : R.curve c c') (qx qy : Octets) :
    Related R (Option.Rel R.publicKey) (readPoint c qx qy) (readPoint c' qx qy) := by
  unfold readPoint
  split
  · exact .refuse _ _
  split
  · exact .refuse _ _
  refine (related_integerOfOctets qx).bind fun x x' hx => ?_
  refine (related_integerOfOctets qy).bind fun y y' hy => ?_
  exact .queryOk (.publicKeyOfCoordinates hc hx hy) fun _ _ h => h

lemma related_writeInteger {i : V.Integer} {i' : W.Integer} (hi : R.integer i i') :
    Related R Eq (writeInteger i) (writeInteger i') :=
  .query (.octetsOfInteger hi)

lemma related_writeIntegers {p : V.Integer × V.Integer} {p' : W.Integer × W.Integer}
    (hp : R.integers p p') : Related R Eq (writeIntegers p) (writeIntegers p') := by
  refine (related_writeInteger hp.1).bind ?_
  rintro a _ rfl
  refine (related_writeInteger hp.2).bind ?_
  rintro b _ rfl
  exact .pure rfl

lemma related_writePoint {k : V.PublicKey} {k' : W.PublicKey} (hk : R.publicKey k k') :
    Related R Eq (writePoint k) (writePoint k') := by
  refine (Related.queryOk (.coordinates hk) fun _ _ h => h).bind fun p p' hp => ?_
  exact related_writeIntegers hp

lemma related_writeSignature {S : V.Signature} {S' : W.Signature} (hS : R.signature S S') :
    Related R Eq (writeSignature S) (writeSignature S') := by
  refine (Related.queryOk (.components hS) fun _ _ h => h).bind fun p p' hp => ?_
  exact related_writeIntegers hp

end Codec

/-! ## Making keys and signatures -/

lemma related_makeKey {c : V.Curve} {c' : W.Curve} (hc : R.curve c c') :
    Related R Eq (makeKey c) (makeKey c') := by
  refine (Related.queryOk (.generateKeyPair hc) fun _ _ h => h).bind fun p p' hp => ?_
  refine (Related.queryOk (.privateScalar hp) fun _ _ h => h).bind fun i i' hi => ?_
  refine (Related.queryOk (.publicKey hp) fun _ _ h => h).bind fun k k' hk => ?_
  refine (Codec.related_writePoint hk).bind ?_
  rintro q _ rfl
  refine (Codec.related_writeInteger hi).bind ?_
  rintro d _ rfl
  exact .pure rfl

/-- Two keys of one group with the same point written next to pairs that correspond. -/
structure GroupKey.Related (R : Correspondence V W) (k : GroupKey V) (k' : GroupKey W) :
    Prop where
  group : k.group = k'.group
  pair : R.keyPair k.pair k'.pair
  qx : k.qx = k'.qx
  qy : k.qy = k'.qy

/-- The keys that are made for one group go with the same point if their pairs correspond. -/
lemma GroupKey.related_generate (g : UInt32) {c : V.Curve} {c' : W.Curve} (hc : R.curve c c') :
    Program.Related R (GroupKey.Related R) (generate g c) (generate g c') := by
  refine (Program.Related.queryOk (.generateKeyPair hc) fun _ _ h => h).bind fun p p' hp => ?_
  refine (Program.Related.queryOk (.publicKey hp) fun _ _ h => h).bind fun k k' hk => ?_
  refine (Codec.related_writePoint hk).bind ?_
  rintro ⟨qx, qy⟩ _ rfl
  exact .log _ (.pure ⟨rfl, hp, rfl, rfl⟩)

/-- What is written of two signatures that correspond is the same. -/
lemma related_makeSignature {k : GroupKey V} {k' : GroupKey W} (hk : k.Related R k')
    {h : V.Digest} {h' : W.Digest} (hh : R.digest h h') (m : Octets) :
    Related R Eq (makeSignature k h m) (makeSignature k' h' m) := by
  refine (Related.queryOk (.sign hk.pair hh m) fun _ _ h => h).bind fun S S' hS => ?_
  refine (Codec.related_writeSignature hS).bind ?_
  rintro ⟨r, s⟩ _ rfl
  exact .pure (by rw [hk.qx, hk.qy])

/-! ## Checking -/

lemma related_conclude (valid : Bool) :
    Related R Eq (conclude valid : Program V Output) (conclude valid : Program W Output) :=
  .log _ (.pure rfl)

lemma related_checkKey {c : V.Curve} {c' : W.Curve} (hc : R.curve c c') (qx qy : Octets) :
    Related R Eq (checkKey c qx qy) (checkKey c' qx qy) := by
  refine (Codec.related_readPoint hc qx qy).bind fun k? k'? hk => ?_
  cases hk with
  | none => exact related_conclude false
  | some hk => exact related_conclude true

/-- A verdict shows nothing of the values that it is about. -/
lemma related_checkSignature {c : V.Curve} {c' : W.Curve} (hc : R.curve c c') {h : V.Digest}
    {h' : W.Digest} (hh : R.digest h h') (m qx qy r s : Octets) :
    Related R Eq (checkSignature c h m qx qy r s) (checkSignature c' h' m qx qy r s) := by
  refine (Codec.related_readSignature r s).bind fun S S' hS => ?_
  refine (Codec.related_readPoint hc qx qy).bind fun k? k'? hk => ?_
  cases hk with
  | none => exact .log _ (.pure rfl)
  | some hk =>
    refine (Related.queryOk (.verify hk hh m hS) fun _ _ h => h).bind ?_
    rintro valid _ rfl
    exact related_conclude valid

/-! ## The names in a case -/

/-- Two tasks that ask for the same with values that correspond. -/
inductive Task.Related (R : Correspondence V W) : Task V → Task W → Prop
  | keyGen {c : V.Curve} {c' : W.Curve} (hc : R.curve c c') :
    Related R (.keyGen c) (.keyGen c')
  | keyVer {c : V.Curve} {c' : W.Curve} (hc : R.curve c c') (qx qy : Octets) :
    Related R (.keyVer c qx qy) (.keyVer c' qx qy)
  | sigGen {c : V.Curve} {c' : W.Curve} {h : V.Digest} {h' : W.Digest} (hc : R.curve c c')
    (hh : R.digest h h') (g : UInt32) (m : Octets) :
    Related R (.sigGen c h g m) (.sigGen c' h' g m)
  | sigVer {c : V.Curve} {c' : W.Curve} {h : V.Digest} {h' : W.Digest} (hc : R.curve c c')
    (hh : R.digest h h') (m qx qy r s : Octets) :
    Related R (.sigVer c h m qx qy r s) (.sigVer c' h' m qx qy r s)

/-- A case is made into tasks that correspond. -/
lemma TestCase.related_task (c : TestCase) :
    Program.Related R (Task.Related R) c.task c.task := by
  refine (Codec.related_lookUpCurve c.curve).bind fun cv cv' hcv => ?_
  cases c.mode with
  | keyGen => exact .pure (.keyGen hcv)
  | keyVer => exact .pure (.keyVer hcv _ _)
  | sigGen =>
    exact (Codec.related_lookUpHash c.hash).bind fun h h' hh => .pure (.sigGen hcv hh _ _)
  | sigVer =>
    exact (Codec.related_lookUpHash c.hash).bind fun h h' hh => .pure (.sigVer hcv hh _ _ _ _ _)

end EcdsaVectors
