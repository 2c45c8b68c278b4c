/-
The courses of reading, writing and making.

What the programs that read, write, make and check ask for is told request by request, for every
answer that a backend can give: `course_f_ok` for the courses of `f` that come to a value, and
`course_f_error` for those that come to a fault.  A value is told by the answers from which it is
made, so that whatever is known of the answers is known of the value.
-/
import EcdsaVectors.Proofs.Codec.Route
namespace EcdsaVectors

open Program

variable {V : Values} {σ : Type} {t : List (Entry V)} {f : Fault}

/-! ## Reading and writing -/

namespace Codec

lemma course_lookUpCurve_ok {C : CurveName} {cv : V.Curve} :
    (lookUpCurve C).Course t (.ok cv) ↔ t = [.asked (.curve C) (some cv)] := by
  constructor
  · rintro ⟨a, u, rfl, h⟩
    cases a with
    | none => cases h.2
    | some c =>
      obtain ⟨rfl, ⟨⟩⟩ := h
      rfl
  · rintro rfl
    exact ⟨some cv, [], rfl, rfl, rfl⟩

lemma result_lookUpCurve {B : Backend V σ} {C : CurveName} {cv : V.Curve} {b : σ}
    (h : (B.respond (.curve C) b).answer = some cv) :
    ((lookUpCurve C).run B b).result = .ok cv := by
  rw [lookUpCurve, result_bind]
  simp [query, h]

lemma course_lookUpCurve_error {C : CurveName} :
    (lookUpCurve C).Course t (.error f) ↔
      t = [.asked (.curve C) none] ∧ f = .unsupportedCurve C := by
  constructor
  · rintro ⟨a, u, rfl, h⟩
    cases a with
    | none =>
      obtain ⟨rfl, ⟨⟩⟩ := h
      exact ⟨rfl, rfl⟩
    | some c => cases h.2
  · rintro ⟨rfl, rfl⟩
    exact ⟨none, [], rfl, rfl, rfl⟩

lemma course_lookUpHash_ok {hash : Option HashName} {h : V.Digest} :
    (lookUpHash hash).Course t (.ok h) ↔
      ∃ name, hash = some name ∧ t = [.asked (.digest name) (some h)] := by
  constructor
  · intro hc
    cases hash with
    | none => cases hc.2
    | some name =>
      obtain ⟨a, u, rfl, hc⟩ := hc
      cases a with
      | none => cases hc.2
      | some h' =>
        obtain ⟨rfl, ⟨⟩⟩ := hc
        exact ⟨name, rfl, rfl⟩
  · rintro ⟨name, rfl, rfl⟩
    exact ⟨some h, [], rfl, rfl, rfl⟩

lemma course_lookUpHash_error {hash : Option HashName} :
    (lookUpHash hash).Course t (.error f) ↔
      hash = none ∧ t = [] ∧ f = .missingHash ∨
      ∃ name, hash = some name ∧ t = [.asked (.digest name) none] ∧
        f = .unsupportedHash name := by
  constructor
  · intro hc
    cases hash with
    | none =>
      obtain ⟨rfl, ⟨⟩⟩ := hc
      exact .inl ⟨rfl, rfl, rfl⟩
    | some name =>
      obtain ⟨a, u, rfl, hc⟩ := hc
      cases a with
      | none =>
        obtain ⟨rfl, ⟨⟩⟩ := hc
        exact .inr ⟨name, rfl, rfl, rfl⟩
      | some h => cases hc.2
  · rintro (⟨rfl, rfl, rfl⟩ | ⟨name, rfl, rfl, rfl⟩)
    · exact ⟨rfl, rfl⟩
    · exact ⟨none, [], rfl, rfl, rfl⟩

lemma course_readScalar_ok {b : Octets} {i : V.Integer} :
    (readScalar b).Course t (.ok i) ↔ b ≠ [] ∧ t = [.asked (.integerOfOctets b) (.ok i)] := by
  unfold readScalar
  split
  · next hb => simp [hb]
  · next hb =>
    rw [course_queryOk]
    constructor
    · rintro ⟨x, rfl, rfl⟩
      exact ⟨hb, rfl⟩
    · rintro ⟨-, rfl⟩
      exact ⟨_, rfl, rfl⟩

lemma course_readSignature_ok {r s : Octets} {S : V.Signature}
    (h : (readSignature r s).Course t (.ok S)) :
    (r ≠ [] ∧ s ≠ []) ∧ ∃ i j, t = [.asked (.integerOfOctets r) (.ok i),
      .asked (.integerOfOctets s) (.ok j), .asked (.signatureOfComponents i j) (.ok S)] := by
  obtain ⟨i, u, v, rfl, hu, hv⟩ := course_bind_ok.1 h
  obtain ⟨hr, rfl⟩ := course_readScalar_ok.1 hu
  obtain ⟨j, u', v', rfl, hu', hv'⟩ := course_bind_ok.1 hv
  obtain ⟨hs, rfl⟩ := course_readScalar_ok.1 hu'
  obtain ⟨_, rfl, rfl⟩ := course_queryOk.1 hv'
  exact ⟨⟨hr, hs⟩, i, j, rfl⟩

/-- A public key is read by three requests, if no coordinate is empty. -/
lemma course_readPoint_ok {cv : V.Curve} {qx qy : Octets} {k? : Option V.PublicKey}
    (h : (readPoint cv qx qy).Course t (.ok k?)) :
    (qx ≠ [] ∧ qy ≠ []) ∧ ∃ x y, t = [.asked (.integerOfOctets qx) (.ok x),
      .asked (.integerOfOctets qy) (.ok y), .asked (.publicKeyOfCoordinates cv x y) (.ok k?)] := by
  unfold readPoint at h
  split at h
  · cases h.2
  split at h
  · cases h.2
  next hx hy =>
    obtain ⟨x, u, v, rfl, hu, hv⟩ := course_bind_ok.1 h
    obtain ⟨_, rfl, rfl⟩ := course_queryOk.1 hu
    obtain ⟨y, u', v', rfl, hu', hv'⟩ := course_bind_ok.1 hv
    obtain ⟨_, rfl, rfl⟩ := course_queryOk.1 hu'
    obtain ⟨_, rfl, rfl⟩ := course_queryOk.1 hv'
    exact ⟨⟨hx, hy⟩, x, y, rfl⟩

/-- The coordinates of a public key that is looked for are read before. -/
lemma asked_of_course_readPoint {cv : V.Curve} {qx qy : Octets}
    {r : Except Fault (Option V.PublicKey)} (h : (readPoint cv qx qy).Course t r) {cv' : V.Curve}
    {x y : V.Integer} {a : Except Fault (Option V.PublicKey)}
    (ha : .asked (.publicKeyOfCoordinates cv' x y) a ∈ t) :
    cv' = cv ∧ .asked (.integerOfOctets qx) (.ok x) ∈ t ∧
      .asked (.integerOfOctets qy) (.ok y) ∈ t := by
  unfold readPoint at h
  split at h
  · obtain ⟨rfl, -⟩ := h
    cases ha
  split at h
  · obtain ⟨rfl, -⟩ := h
    cases ha
  -- the key is looked for only after both coordinates have been read
  obtain ⟨_, u, rfl, ⟨e, -, rfl, -⟩ | ⟨x', rfl, hx⟩⟩ := course_queryOk_bind.1 h
  · simp at ha
  obtain ⟨_, v, rfl, ⟨e, -, rfl, -⟩ | ⟨y', rfl, hy⟩⟩ := course_queryOk_bind.1 hx
  · simp at ha
  obtain ⟨_, rfl, -⟩ := course_queryOk.1 hy
  obtain ⟨⟨rfl, rfl, rfl⟩, -⟩ : (cv' = cv ∧ x = x' ∧ y = y') ∧ a = _ := by simpa using ha
  simp

/-- Two numbers that have come of a program are written one after the other. -/
lemma course_bind_writeIntegers_ok {p : Program V (V.Integer × V.Integer)} {q : Octets × Octets}
    (h : (p >>= writeIntegers).Course t (.ok q)) :
    ∃ x y u, p.Course u (.ok (x, y)) ∧
      t = u ++ [.asked (.octetsOfInteger x) q.1, .asked (.octetsOfInteger y) q.2] := by
  obtain ⟨⟨x, y⟩, u, _, rfl, hu, a, _, rfl, b, _, rfl, rfl, ⟨⟩⟩ := course_bind_ok.1 h
  exact ⟨x, y, u, hu, rfl⟩

/-- Nothing that is written can fail to be, so the fault comes from before. -/
lemma course_bind_writeIntegers_error {p : Program V (V.Integer × V.Integer)}
    (h : (p >>= writeIntegers).Course t (.error f)) : p.Course t (.error f) := by
  rcases course_bind_error.1 h with h | ⟨_, u, v, rfl, -, a, _, rfl, b, _, rfl, rfl, ⟨⟩⟩
  exact h

lemma course_writePoint_ok {key : V.PublicKey} {q : Octets × Octets}
    (h : (writePoint key).Course t (.ok q)) :
    ∃ x y, t = [.asked (.coordinates key) (.ok (x, y)), .asked (.octetsOfInteger x) q.1,
      .asked (.octetsOfInteger y) q.2] := by
  obtain ⟨x, y, u, hu, rfl⟩ := course_bind_writeIntegers_ok h
  obtain ⟨_, rfl, rfl⟩ := course_queryOk.1 hu
  exact ⟨x, y, rfl⟩

lemma course_writePoint_error {key : V.PublicKey}
    (h : (writePoint key).Course t (.error f)) : t = [.asked (.coordinates key) (.error f)] := by
  obtain ⟨_, rfl, rfl⟩ := course_queryOk.1 (course_bind_writeIntegers_error h)
  rfl

lemma course_writeSignature_ok {S : V.Signature} {q : Octets × Octets}
    (h : (writeSignature S).Course t (.ok q)) :
    ∃ x y, t = [.asked (.components S) (.ok (x, y)), .asked (.octetsOfInteger x) q.1,
      .asked (.octetsOfInteger y) q.2] := by
  obtain ⟨x, y, u, hu, rfl⟩ := course_bind_writeIntegers_ok h
  obtain ⟨_, rfl, rfl⟩ := course_queryOk.1 hu
  exact ⟨x, y, rfl⟩

lemma course_writeSignature_error {S : V.Signature}
    (h : (writeSignature S).Course t (.error f)) : t = [.asked (.components S) (.error f)] := by
  obtain ⟨_, rfl, rfl⟩ := course_queryOk.1 (course_bind_writeIntegers_error h)
  rfl

end Codec

/-! ## Making keys and signatures -/

/-- The key that is made for a group, with the requests that it is made by: the point that
is written is that of its public key. -/
lemma GroupKey.course_generate_ok {group : UInt32} {cv : V.Curve} {k : GroupKey V}
    (h : (GroupKey.generate group cv).Course t (.ok k)) :
    k.group = group ∧ ∃ key u,
      t = .asked (.generateKeyPair cv) (.ok k.pair) :: .asked (.publicKey k.pair) (.ok key) :: u ∧
      (Codec.writePoint key).Course u (.ok (k.qx, k.qy)) := by
  obtain ⟨pair, u, v, rfl, hu, hv⟩ := course_bind_ok.1 h
  obtain ⟨_, rfl, rfl⟩ := course_queryOk.1 hu
  obtain ⟨key, u', v', rfl, hu', hv'⟩ := course_bind_ok.1 hv
  obtain ⟨_, rfl, rfl⟩ := course_queryOk.1 hu'
  obtain ⟨⟨qx, qy⟩, w, w', rfl, hw, hw'⟩ := course_bind_ok.1 hv'
  obtain ⟨rfl, ⟨⟩⟩ := hw'
  refine ⟨rfl, key, w, ?_, hw⟩
  simp

lemma GroupKey.course_generate_error {group : UInt32} {cv : V.Curve}
    (h : (GroupKey.generate group cv).Course t (.error f)) :
    (∃ u, t = .asked (.generateKeyPair cv) (.error f) :: u) ∨
      (∃ pair u, t = .asked (.generateKeyPair cv) (.ok pair) ::
        .asked (.publicKey pair) (.error f) :: u) ∨
      ∃ pair key u, t = .asked (.generateKeyPair cv) (.ok pair) ::
        .asked (.publicKey pair) (.ok key) :: .asked (.coordinates key) (.error f) :: u := by
  rcases course_bind_error.1 h with h | ⟨pair, u, v, rfl, hu, hv⟩
  · obtain ⟨_, rfl, rfl⟩ := course_queryOk.1 h
    exact .inl ⟨[], rfl⟩
  obtain ⟨_, rfl, rfl⟩ := course_queryOk.1 hu
  rcases course_bind_error.1 hv with h | ⟨key, u', v', rfl, hu', hv'⟩
  · obtain ⟨_, rfl, rfl⟩ := course_queryOk.1 h
    exact .inr (.inl ⟨pair, [], rfl⟩)
  obtain ⟨_, rfl, rfl⟩ := course_queryOk.1 hu'
  rcases course_bind_error.1 hv' with h | ⟨q, w, w', rfl, -, hw'⟩
  · obtain rfl := Codec.course_writePoint_error h
    exact .inr (.inr ⟨pair, key, [], rfl⟩)
  · cases hw'.2

/-- The signature that is made for a case, with the requests that it is made by.  Next to it
stands the point of the group key. -/
lemma course_makeSignature_ok {k : GroupKey V} {h : V.Digest} {m : Octets} {o : Output}
    (hc : (makeSignature k h m).Course t (.ok o)) :
    ∃ S x y r s, o = .signature r s k.qx k.qy ∧
      t = [.asked (.sign k.pair h m) (.ok S), .asked (.components S) (.ok (x, y)),
        .asked (.octetsOfInteger x) r, .asked (.octetsOfInteger y) s] := by
  obtain ⟨S, u, v, rfl, hu, hv⟩ := course_bind_ok.1 hc
  obtain ⟨_, rfl, rfl⟩ := course_queryOk.1 hu
  obtain ⟨⟨r, s⟩, w, w', rfl, hw, rfl, ⟨⟩⟩ := course_bind_ok.1 hv
  obtain ⟨x, y, rfl⟩ := Codec.course_writeSignature_ok hw
  exact ⟨S, x, y, r, s, rfl, rfl⟩

lemma course_makeSignature_error {k : GroupKey V} {h : V.Digest} {m : Octets}
    (hc : (makeSignature k h m).Course t (.error f)) :
    t = [.asked (.sign k.pair h m) (.error f)] ∨
      ∃ S, t = [.asked (.sign k.pair h m) (.ok S), .asked (.components S) (.error f)] := by
  rcases course_bind_error.1 hc with hc | ⟨S, u, v, rfl, hu, hv⟩
  · obtain ⟨_, rfl, rfl⟩ := course_queryOk.1 hc
    exact .inl rfl
  obtain ⟨_, rfl, rfl⟩ := course_queryOk.1 hu
  rcases course_bind_error.1 hv with hv | ⟨q, w, w', rfl, -, hw'⟩
  · obtain rfl := Codec.course_writeSignature_error hv
    exact .inr ⟨S, rfl⟩
  · cases hw'.2

/-- The key pair that is written into a case, with the requests that it is made by: the scalar
and the point are those of the pair. -/
lemma course_makeKey_ok {cv : V.Curve} {o : Output} (h : (makeKey cv).Course t (.ok o)) :
    ∃ pair i key x y d qx qy, o = .key d qx qy ∧
      t = [.asked (.generateKeyPair cv) (.ok pair), .asked (.privateScalar pair) (.ok i),
        .asked (.publicKey pair) (.ok key), .asked (.coordinates key) (.ok (x, y)),
        .asked (.octetsOfInteger x) qx, .asked (.octetsOfInteger y) qy,
        .asked (.octetsOfInteger i) d] := by
  obtain ⟨pair, u₁, v₁, rfl, h₁, hscalar⟩ := course_bind_ok.1 h
  obtain ⟨_, rfl, rfl⟩ := course_queryOk.1 h₁
  obtain ⟨i, u₂, v₂, rfl, h₂, hkey⟩ := course_bind_ok.1 hscalar
  obtain ⟨_, rfl, rfl⟩ := course_queryOk.1 h₂
  obtain ⟨key, u₃, v₃, rfl, h₃, hpoint⟩ := course_bind_ok.1 hkey
  obtain ⟨_, rfl, rfl⟩ := course_queryOk.1 h₃
  obtain ⟨⟨qx, qy⟩, u₄, v₄, rfl, h₄, hwritten⟩ := course_bind_ok.1 hpoint
  obtain ⟨x, y, rfl⟩ := Codec.course_writePoint_ok h₄
  obtain ⟨d, v, rfl, rfl, ⟨⟩⟩ := hwritten
  exact ⟨pair, i, key, x, y, d, qx, qy, rfl, rfl⟩

/-- One key pair is asked for to begin with, and no scalar but that of this pair. -/
lemma course_makeKey {cv : V.Curve} {r : Except Fault Output}
    (h : (makeKey cv).Course t r) :
    ∃ (x : Except Fault V.KeyPair) (u : List (Entry V)),
      t = .asked (.generateKeyPair cv) x :: u ∧ .generateKeyPair ∉ methods u ∧
        ∀ pair a, .asked (.privateScalar pair) a ∈ u → x = .ok pair := by
  obtain ⟨x, u, rfl, ⟨f, rfl, rfl, -⟩ | ⟨pair, rfl, hscalar⟩⟩ := course_queryOk_bind.1 h
  · exact ⟨_, [], rfl, by simp, by simp⟩
  obtain ⟨y, v, rfl, -⟩ := course_queryOk_bind.1 hscalar
  have hroute : methods (_ :: _ :: v) <+: [.generateKeyPair, .privateScalar, .publicKey,
      .coordinates, .octetsOfInteger, .octetsOfInteger, .octetsOfInteger] :=
    ((keeps_makeKey cv).follows _ r h).1
  have hcalls := (List.cons_prefix_cons.1 (List.cons_prefix_cons.1 hroute).2).2
  refine ⟨_, _, rfl, ?_, ?_⟩
  · intro hmem
    rcases List.mem_cons.1 hmem with hfirst | hlater
    · cases hfirst
    · simpa using hcalls.subset hlater
  · intro pair' a hmem
    rcases List.mem_cons.1 hmem with hfirst | hlater
    · cases hfirst
      rfl
    · simpa using hcalls.subset (mem_methods hlater)

/-! ## Checking -/

lemma course_conclude_ok {valid : Bool} {o : Output} :
    (conclude valid : Program V Output).Course t (.ok o) ↔
      t = [] ∧ o = .verdict (.ofBool valid) := by
  constructor
  · rintro ⟨rfl, ⟨⟩⟩
    exact ⟨rfl, rfl⟩
  · rintro ⟨rfl, rfl⟩
    exact ⟨rfl, rfl⟩

lemma course_checkKey_ok {cv : V.Curve} {qx qy : Octets} {o : Output}
    (h : (checkKey cv qx qy).Course t (.ok o)) :
    ∃ k?, (Codec.readPoint cv qx qy).Course t (.ok k?) ∧ o = .verdict (.ofBool k?.isSome) := by
  obtain ⟨k?, u, v, rfl, hu, hv⟩ := course_bind_ok.1 h
  obtain ⟨rfl, rfl⟩ := course_conclude_ok.1 hv
  rw [List.append_nil]
  exact ⟨k?, hu, rfl⟩

/-- What a check of a signature asks, and what it comes to: the signature is read before the
public key, and is verified only if there is one. -/
lemma course_checkSignature {cv : V.Curve} {d : V.Digest} {m qx qy r s : Octets}
    {z : Except Fault Output} (h : (checkSignature cv d m qx qy r s).Course t z) :
    (∃ f, z = .error f ∧ (Codec.readSignature r s).Course t (.error f)) ∨
      ∃ S u v, t = u ++ v ∧ (Codec.readSignature r s).Course u (.ok S) ∧
        ((∃ f, z = .error f ∧ (Codec.readPoint cv qx qy).Course v (.error f)) ∨
          (z = .ok (.verdict .fail) ∧ (Codec.readPoint cv qx qy).Course v (.ok none)) ∨
          ∃ key w x, v = w ++ [.asked (.verify key d m S) x] ∧
            (Codec.readPoint cv qx qy).Course w (.ok (some key)) ∧
            z = x.map fun valid => .verdict (.ofBool valid)) := by
  rcases course_bind.1 h with hfault | ⟨S, u, v, rfl, hu, hrest⟩
  · exact .inl hfault
  refine .inr ⟨S, u, v, rfl, hu, ?_⟩
  rcases course_bind.1 hrest with hfault | ⟨k?, w, w', rfl, hw, hend⟩
  · exact .inl hfault
  cases k? with
  | none =>
    obtain ⟨rfl, rfl⟩ := hend
    exact .inr (.inl ⟨rfl, by rwa [List.append_nil]⟩)
  | some key =>
    refine .inr (.inr ?_)
    obtain ⟨x, _, rfl, ⟨f, rfl, rfl, rfl⟩ | ⟨valid, rfl, rfl, rfl⟩⟩ := course_queryOk_bind.1 hend
    · exact ⟨key, w, .error f, rfl, hw, rfl⟩
    · exact ⟨key, w, .ok valid, rfl, hw, rfl⟩

/-- The verdict on a signature is what the verification finds, if it comes to one: signature
and public key are read before, and there is a public key. -/
lemma course_checkSignature_ok {cv : V.Curve} {h : V.Digest} {m qx qy r s : Octets}
    {o : Output} (hc : (checkSignature cv h m qx qy r s).Course t (.ok o)) :
    ∃ S u v, (Codec.readSignature r s).Course u (.ok S) ∧
      ((Codec.readPoint cv qx qy).Course v (.ok none) ∧ t = u ++ v ∧ o = .verdict .fail ∨
        ∃ key valid, (Codec.readPoint cv qx qy).Course v (.ok (some key)) ∧
          t = u ++ v ++ [.asked (.verify key h m S) (.ok valid)] ∧
          o = .verdict (.ofBool valid)) := by
  rcases course_checkSignature hc with ⟨f, ⟨⟩, -⟩ | ⟨S, u, v, rfl, hu, hend⟩
  rcases hend with ⟨f, ⟨⟩, -⟩ | ⟨⟨⟩, hv⟩ | ⟨key, w, x, rfl, hw, ho⟩
  · exact ⟨S, u, v, hu, .inl ⟨hv, rfl, rfl⟩⟩
  · cases x with
    | error f => cases ho
    | ok valid =>
      obtain rfl := Except.ok.inj ho
      exact ⟨S, u, w, hu, .inr ⟨key, valid, hw, by rw [List.append_assoc], rfl⟩⟩

lemma asked_of_course_checkKey {cv : V.Curve} {qx qy : Octets} {r : Except Fault Output}
    (h : (checkKey cv qx qy).Course t r) {cv' : V.Curve} {x y : V.Integer}
    {a : Except Fault (Option V.PublicKey)}
    (ha : .asked (.publicKeyOfCoordinates cv' x y) a ∈ t) :
    cv' = cv ∧ .asked (.integerOfOctets qx) (.ok x) ∈ t ∧
      .asked (.integerOfOctets qy) (.ok y) ∈ t := by
  rcases course_bind.1 h with ⟨e, -, hread⟩ | ⟨k?, u, v, rfl, hread, rfl, -⟩
  · exact Codec.asked_of_course_readPoint hread ha
  · rw [List.append_nil] at ha ⊢
    exact Codec.asked_of_course_readPoint hread ha

lemma asked_of_course_checkSignature {cv : V.Curve} {d : V.Digest} {m qx qy r s : Octets}
    {z : Except Fault Output} (h : (checkSignature cv d m qx qy r s).Course t z) {cv' : V.Curve}
    {x y : V.Integer} {a : Except Fault (Option V.PublicKey)}
    (ha : .asked (.publicKeyOfCoordinates cv' x y) a ∈ t) :
    cv' = cv ∧ .asked (.integerOfOctets qx) (.ok x) ∈ t ∧
      .asked (.integerOfOctets qy) (.ok y) ∈ t := by
  have hcalls {u : List (Entry V)} {y : Except Fault V.Signature}
      (hu : (Codec.readSignature r s).Course u y) : .publicKeyOfCoordinates ∉ methods u := by
    intro hmem
    simpa [Codec.scalarRoute] using (Codec.keeps_readSignature r s).ends.callsOnly u y hu hmem
  rcases course_checkSignature h with ⟨f, rfl, hfault⟩ | ⟨S, u, v, rfl, hu, hend⟩
  · exact absurd (mem_methods ha) (hcalls hfault)
  have hv := (List.mem_append.1 ha).resolve_left fun ha => hcalls hu (mem_methods ha)
  obtain ⟨rfl, hx, hy⟩ : cv' = cv ∧ .asked (.integerOfOctets qx) (.ok x) ∈ v ∧
      .asked (.integerOfOctets qy) (.ok y) ∈ v := by
    rcases hend with ⟨f, rfl, hread⟩ | ⟨rfl, hread⟩ | ⟨key, w, x', rfl, hread, rfl⟩
    · exact Codec.asked_of_course_readPoint hread hv
    · exact Codec.asked_of_course_readPoint hread hv
    · have hw := (List.mem_append.1 hv).resolve_right (by simp)
      obtain ⟨rfl, hx, hy⟩ := Codec.asked_of_course_readPoint hread hw
      exact ⟨rfl, List.mem_append_left _ hx, List.mem_append_left _ hy⟩
  exact ⟨rfl, List.mem_append_right _ hx, List.mem_append_right _ hy⟩

/-- A signature that is verified is put together of the components that have been read, and the
public key that it is verified with is the one that has been found. -/
lemma asked_of_course_verify {cv : V.Curve} {d : V.Digest} {m qx qy r s : Octets}
    {z : Except Fault Output} (h : (checkSignature cv d m qx qy r s).Course t z)
    {key : V.PublicKey} {d' : V.Digest} {m' : Octets} {S : V.Signature} {a : Except Fault Bool}
    (ha : .asked (.verify key d' m' S) a ∈ t) :
    (∃ i j, .asked (.integerOfOctets r) (.ok i) ∈ t ∧ .asked (.integerOfOctets s) (.ok j) ∈ t ∧
      .asked (.signatureOfComponents i j) (.ok S) ∈ t) ∧
    ∃ x y, .asked (.publicKeyOfCoordinates cv x y) (.ok (some key)) ∈ t := by
  have hpoint {u : List (Entry V)} {y : Except Fault (Option V.PublicKey)}
      (hu : (Codec.readPoint cv qx qy).Course u y) : .verify ∉ methods u := by
    intro hmem
    simpa [Codec.pointRoute] using (Codec.keeps_readPoint cv qx qy).ends.callsOnly u y hu hmem
  rcases course_checkSignature h with ⟨f, rfl, hfault⟩ | ⟨S', u, v, rfl, hu, hend⟩
  · have hmem := (Codec.keeps_readSignature r s).ends.callsOnly t _ hfault (mem_methods ha)
    simp [Codec.scalarRoute] at hmem
  obtain ⟨-, i, j, rfl⟩ := Codec.course_readSignature_ok hu
  have hv : .asked (.verify key d' m' S) a ∈ v := by simpa using ha
  rcases hend with ⟨f, rfl, hread⟩ | ⟨rfl, hread⟩ | ⟨key', w, x', rfl, hread, rfl⟩
  · exact absurd (mem_methods hv) (hpoint hread)
  · exact absurd (mem_methods hv) (hpoint hread)
  have hlast := (List.mem_append.1 hv).resolve_left fun hw => hpoint hread (mem_methods hw)
  obtain ⟨⟨rfl, rfl, rfl, rfl⟩, rfl⟩ :
      (key = key' ∧ d' = d ∧ m' = m ∧ S = S') ∧ a = x' := by simpa using hlast
  obtain ⟨-, x, y, rfl⟩ := Codec.course_readPoint_ok hread
  exact ⟨⟨i, j, by simp⟩, x, y, by simp⟩

end EcdsaVectors
