/-
The routes of reading, writing and making.

What is asked for in reading or writing a value, and in making or checking one, is a matter of
the program alone.  So is the order in which it is asked.  A component of a signature is checked
when it is its turn to be read, but both coordinates of a point are checked before either is
read.  The route of each program is told once; what methods it calls, what faults it can end in
and what it reports follow from it.

* `keeps_makeKey`, `GroupKey.keeps_generate`, `keeps_makeSignature`: keys and signatures are made
  without checks, and nothing but a fault stops the making;
* `ends_checkKey`, `ends_checkSignature`: a check can also be stopped for want of a public key.
-/
import EcdsaVectors.Run
import EcdsaVectors.Proofs.Program.Route
namespace EcdsaVectors

open Program

variable {V : Values}

/-! ## Reading and writing -/

namespace Codec

/-- The route of looking up the hash function of a case. -/
def hashRoute (hash : Option HashName) : List (Station V) :=
  [.check (hash ≠ none) .missingHash, .ask fun q => hash.map Request.digest = some q]

/-- The route of reading a scalar. -/
def scalarRoute (b : Octets) : List (Station V) :=
  [.check (b ≠ []) (.invalidEncoding "empty scalar"), .exactly (.integerOfOctets b)]

/-- The route of reading a public key. -/
def pointRoute (qx qy : Octets) : List (Station V) :=
  [.check (qx ≠ []) (.invalidEncoding "empty qx"), .check (qy ≠ []) (.invalidEncoding "empty qy"),
    .exactly (.integerOfOctets qx), .exactly (.integerOfOctets qy), .any .publicKeyOfCoordinates]

/-- The fault of a scalar without octets. -/
def emptyScalar : Fault := .invalidEncoding "empty scalar"

/-- The check on the route of reading a scalar is for octets. -/
lemma empty_of_mem_scalarRoute {b : Octets} {P : Prop} {f : Fault}
    (h : .check P f ∈ (scalarRoute b : List (Station V))) (hP : ¬ P) :
    b = [] ∧ f = emptyScalar := by
  obtain ⟨rfl, rfl⟩ : P = (b ≠ []) ∧ f = emptyScalar := by
    simpa [scalarRoute, Station.exactly, emptyScalar] using h
  exact ⟨Classical.not_not.1 hP, rfl⟩

/-- So are those on the route of reading a public key. -/
lemma empty_of_mem_pointRoute {qx qy : Octets} {P : Prop} {f : Fault}
    (h : .check P f ∈ (pointRoute qx qy : List (Station V))) (hP : ¬ P) :
    (qx = [] ∨ qy = []) ∧ f.kind = .encoding := by
  have hcheck : P = (qx ≠ []) ∧ f = .invalidEncoding "empty qx" ∨
      P = (qy ≠ []) ∧ f = .invalidEncoding "empty qy" := by
    simpa [pointRoute, Station.exactly, Station.any] using h
  rcases hcheck with ⟨rfl, rfl⟩ | ⟨rfl, rfl⟩
  · exact ⟨.inl (Classical.not_not.1 hP), rfl⟩
  · exact ⟨.inr (Classical.not_not.1 hP), rfl⟩

/-- Those on the route of reading a signature are for the octets of its components. -/
lemma empty_of_mem_signatureRoute {r s : Octets} {P : Prop} {f : Fault}
    (h : .check P f ∈ (scalarRoute r ++ scalarRoute s ++ [.any .signatureOfComponents] :
      List (Station V))) (hP : ¬ P) : (r = [] ∨ s = []) ∧ f = emptyScalar := by
  have hmem : .check P f ∈ (scalarRoute r : List (Station V)) ∨
      .check P f ∈ (scalarRoute s : List (Station V)) := by
    simpa [Station.any] using h
  rcases hmem with hr | hs
  · obtain ⟨hempty, hf⟩ := empty_of_mem_scalarRoute hr hP
    exact ⟨.inl hempty, hf⟩
  · obtain ⟨hempty, hf⟩ := empty_of_mem_scalarRoute hs hP
    exact ⟨.inr hempty, hf⟩

lemma keeps_lookUpCurve (C : CurveName) :
    Keeps (lookUpCurve C : Program V V.Curve) [.exactly (.curve C)] fun _ => False := by
  refine .ask rfl fun a => ?_
  cases a with
  | none => exact .inr ⟨_, _, rfl, rfl, rfl⟩
  | some c => exact .inl ⟨c, rfl, rfl⟩

lemma keeps_lookUpHash (hash : Option HashName) :
    Keeps (lookUpHash hash : Program V V.Digest) (hashRoute hash) fun _ => False := by
  cases hash with
  | none => exact .refuse (by simp) rfl
  | some name =>
    refine .passed (by simp) (.ask rfl fun a => ?_)
    cases a with
    | none => exact .inr ⟨_, _, rfl, rfl, rfl⟩
    | some h => exact .inl ⟨h, rfl, rfl⟩

lemma keeps_readScalar (b : Octets) :
    Keeps (readScalar b : Program V V.Integer) (scalarRoute b) fun _ => False :=
  .check rfl (.request rfl fun _ => rfl)

lemma keeps_readSignature (r s : Octets) :
    Keeps (readSignature r s : Program V V.Signature)
      (scalarRoute r ++ scalarRoute s ++ [.any .signatureOfComponents]) fun _ => False := by
  rw [List.append_assoc]
  refine (keeps_readScalar r).bind fun x => (keeps_readScalar s).bind fun y => ?_
  exact .request trivial fun _ => rfl

/-- A public key is read unless the route is cut, be it for a fault or for want of one. -/
lemma keeps_readPoint (cv : V.Curve) (qx qy : Octets) :
    Keeps (readPoint cv qx qy) (pointRoute qx qy) (· = none) := by
  refine .check rfl (.check rfl ?_)
  refine .step (.request rfl fun _ => rfl) fun x => ?_
  refine .step (.request rfl fun _ => rfl) fun y => ?_
  refine Keeps.queryOk trivial ?_ ?_ ?_
  · rintro a f rfl
    rfl
  · rintro a b rfl rfl
    rfl
  · rintro a b rfl hb
    obtain ⟨key, rfl⟩ := Option.ne_none_iff_exists'.1 hb
    rfl

lemma keeps_writeInteger (i : V.Integer) :
    Keeps (writeInteger i) [.any .octetsOfInteger] fun _ => False :=
  .query trivial fun _ => rfl

lemma keeps_writeIntegers (p : V.Integer × V.Integer) :
    Keeps (writeIntegers p) [.any .octetsOfInteger, .any .octetsOfInteger] fun _ => False := by
  refine .step (keeps_writeInteger p.1) fun a => ?_
  refine .step (keeps_writeInteger p.2) fun b => ?_
  exact .pure

lemma keeps_writePoint (key : V.PublicKey) :
    Keeps (writePoint key)
      [.any .coordinates, .any .octetsOfInteger, .any .octetsOfInteger] fun _ => False :=
  .step (.request trivial fun _ => rfl) keeps_writeIntegers

lemma keeps_writeSignature (S : V.Signature) :
    Keeps (writeSignature S)
      [.any .components, .any .octetsOfInteger, .any .octetsOfInteger] fun _ => False :=
  .step (.request trivial fun _ => rfl) keeps_writeIntegers

end Codec

/-! ## Making keys and signatures -/

lemma keeps_makeKey (cv : V.Curve) :
    Keeps (makeKey cv) [.any .generateKeyPair, .any .privateScalar, .any .publicKey,
      .any .coordinates, .any .octetsOfInteger, .any .octetsOfInteger,
      .any .octetsOfInteger] fun _ => False := by
  refine .step (.request trivial fun _ => rfl) fun pair => ?_
  refine .step (.request trivial fun _ => rfl) fun i => ?_
  refine .step (.request trivial fun _ => rfl) fun key => ?_
  refine (Codec.keeps_writePoint key).bind fun q => ?_
  exact .step (Codec.keeps_writeInteger i) fun d => .pure

/-- The key that is made for a group is told of. -/
lemma GroupKey.keeps_generate (g : UInt32) (cv : V.Curve) :
    Keeps (generate g cv) [.any .generateKeyPair, .any .publicKey, .any .coordinates,
      .any .octetsOfInteger, .any .octetsOfInteger] (fun _ => False) [.groupKeyGenerated g] := by
  refine .step (.request trivial fun _ => rfl) fun pair => ?_
  refine .step (.request trivial fun _ => rfl) fun key => ?_
  exact (Codec.keeps_writePoint key).bind fun q => .tell rfl (by rintro ⟨⟩)

lemma keeps_makeSignature (k : GroupKey V) (h : V.Digest) (m : Octets) :
    Keeps (makeSignature k h m) [.any .sign, .any .components, .any .octetsOfInteger,
      .any .octetsOfInteger] fun _ => False := by
  refine .step (.request trivial fun _ => rfl) fun S => ?_
  exact (Codec.keeps_writeSignature S).bind fun q => .pure

lemma GroupKey.follows_generate (g : UInt32) (cv : V.Curve) :
    Follows (generate g cv)
      [.generateKeyPair, .publicKey, .coordinates, .octetsOfInteger, .octetsOfInteger] :=
  (keeps_generate g cv).follows

lemma follows_makeSignature (k : GroupKey V) (h : V.Digest) (m : Octets) :
    Follows (makeSignature k h m) [.sign, .components, .octetsOfInteger, .octetsOfInteger] :=
  (keeps_makeSignature k h m).follows

/-! ## Checking -/

lemma keeps_conclude (valid : Bool) : Keeps (conclude valid : Program V Output) [] fun _ => False :=
  .log ⟨rfl, by rintro ⟨⟩⟩ .pure

/-- A check of a public key ends at its first request that finds none. -/
lemma ends_checkKey (cv : V.Curve) (qx qy : Octets) :
    Ends (checkKey cv qx qy) (Codec.pointRoute qx qy) := by
  rw [← List.append_nil (Codec.pointRoute qx qy)]
  exact (Codec.keeps_readPoint cv qx qy).bind_ends (fun k? _ => keeps_conclude k?.isSome)
    fun k? _ => (keeps_conclude k?.isSome).ends

/-- A signature is verified only if there is a public key to do it with. -/
lemma ends_checkSignature (cv : V.Curve) (h : V.Digest) (m qx qy r s : Octets) :
    Ends (checkSignature cv h m qx qy r s)
      (Codec.scalarRoute r ++ Codec.scalarRoute s ++ [.any .signatureOfComponents] ++
        (Codec.pointRoute qx qy ++ [.any .verify])) := by
  refine (Codec.keeps_readSignature r s).bind_ends (fun S hS => hS.elim) fun S _ => ?_
  refine (Codec.keeps_readPoint cv qx qy).bind_ends ?_ ?_
  · rintro _ rfl
    exact .log ⟨rfl, by rintro ⟨⟩⟩ .pure
  · intro k? hk
    obtain ⟨key, rfl⟩ := Option.ne_none_iff_exists'.1 hk
    exact Keeps.ends (.step (.request trivial fun _ => rfl) keeps_conclude)

/-- A public key is checked by reading it. -/
lemma callsOnly_checkKey (cv : V.Curve) (qx qy : Octets) :
    CallsOnly (checkKey cv qx qy)
      [.integerOfOctets, .integerOfOctets, .publicKeyOfCoordinates] :=
  (ends_checkKey cv qx qy).callsOnly

/-- A signature is checked without a key pair. -/
lemma callsOnly_checkSignature (cv : V.Curve) (h : V.Digest) (m qx qy r s : Octets) :
    CallsOnly (checkSignature cv h m qx qy r s)
      [.integerOfOctets, .integerOfOctets, .signatureOfComponents, .integerOfOctets,
        .integerOfOctets, .publicKeyOfCoordinates, .verify] :=
  (ends_checkSignature cv h m qx qy r s).callsOnly

/-! ## The names in a case -/

namespace TestCase

/-- The route of looking up the names in a case. -/
def nameRoute (c : TestCase) : List (Station V) :=
  .exactly (.curve c.curve) ::
    match c.mode with
    | .keyGen | .keyVer => []
    | .sigGen | .sigVer => Codec.hashRoute c.hash

lemma keeps_task (c : TestCase) :
    Keeps (c.task : Program V (Task V)) c.nameRoute fun _ => False := by
  refine .step (Codec.keeps_lookUpCurve c.curve) fun cv => ?_
  cases c.mode with
  | keyGen => exact .pure
  | keyVer => exact .pure
  | sigGen => exact (Codec.keeps_lookUpHash c.hash).bind fun d => .pure
  | sigVer => exact (Codec.keeps_lookUpHash c.hash).bind fun d => .pure

end TestCase

end EcdsaVectors
