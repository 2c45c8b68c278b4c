/-
Points that are written and read again.

What is written of a public key that has been read are the octets that it has been read from,
without the zeros in front (`Library.readPoint_writePoint`).  Reading them gives the key
again, but for one case: the octets of zero are none, and no octets are refused.  So a valid
point with a zero coordinate can be read, but not from what is written of it.  There are such
points (`Library.exists_refused_again`).
-/
import EcdsaVectors.Proofs.Backend.Library
import EcdsaVectors.Proofs.Codec.Textbook
namespace EcdsaVectors

open Program

variable {V : Values} {σ : Type}

namespace Backend.Faithful

variable {B : Backend V σ} {M : Meaning V} {domains : CurveName → Domain}
  {knows : CurveName → Bool} (hB : B.Faithful M domains knows) {c : V.Curve} {D : Domain}
  {k : V.PublicKey} {Q : PublicKey} {qx qy : Octets} {s : σ}

include hB

/-- A public key that is read has the coordinates that are written in the octets. -/
lemma of_readPoint (hc : M.curve c D)
    (hk : ((Codec.readPoint c qx qy).run B s).result = .ok (some k)) :
    ∃ Q, M.publicKey k Q ∧ D.publicKey? qx.value qy.value = some Q := by
  obtain ⟨x, hreads, hresult⟩ := hB.reads_readPoint hc qx qy s
  rw [hk] at hresult
  obtain @⟨_, Q?, hQ⟩ := hresult
  obtain ⟨-, rfl⟩ := hreads.of_ok
  generalize D.publicKey? qx.value qy.value = Q? at hQ
  cases hQ with
  | some hQ => exact ⟨_, hQ, rfl⟩

lemma readPoint_refuses (hc : M.curve c D) (hempty : qx = [] ∨ qy = []) (s : σ) :
    ∃ f, ((Codec.readPoint c qx qy).run B s).result = .error f ∧ f.kind = .encoding := by
  obtain ⟨x, hreads, hresult⟩ := hB.reads_readPoint hc qx qy s
  obtain ⟨f, rfl, hkind⟩ := hreads.exists_fault hempty
  exact ⟨f, hresult.eq_error, hkind⟩

/-- What is written of a public key are the octets of its coordinates, without zeros in
front. -/
lemma writePoint_trim (hk : M.publicKey k Q) (hQ : D.publicKey? qx.value qy.value = some Q)
    (s : σ) : ((Codec.writePoint k).run B s).result = .ok (qx.trim, qy.trim) := by
  obtain ⟨-, hcoordinates, -, -⟩ := Domain.coordinates_of_publicKey? hQ
  rw [hB.result_writePoint hk, hcoordinates, Octets.ofNat_value, Octets.ofNat_value]

lemma readPoint_trim (hc : M.curve c D) (hQ : D.publicKey? qx.value qy.value = some Q)
    (hx : qx.trim ≠ []) (hy : qy.trim ≠ []) (s : σ) :
    ∃ k, ((Codec.readPoint c qx.trim qy.trim).run B s).result = .ok (some k) ∧
      M.publicKey k Q := by
  rw [← Octets.value_trim qx, ← Octets.value_trim qy] at hQ
  exact hB.exists_readPoint hc hx hy hQ s

end Backend.Faithful

namespace Library

lemma publicKey_unique (L : Library) {k k' : L.values.PublicKey} {Q : PublicKey}
    (h : L.meaning.publicKey k Q) (h' : L.meaning.publicKey k' Q) : k = k' := by
  cases L with
  | bigInteger => exact Eq.trans (show k = Q from h) (show k' = Q from h').symm
  | fixedWidth => exact h.1.trans h'.1.symm

variable (L : Library) {C : CurveName} {E E' : Entropy} {cv : L.values.Curve}
  {key : L.values.PublicKey} {qx qy : Octets}

/-- **What is written of a public key is read as the same key, if neither coordinate is zero.**
On either backend, and for each curve that it knows: of a key that has been read the octets
are written that it has been read from, without the zeros in front.  If there are octets left
of both coordinates the key is read from them again, and otherwise they are refused. -/
theorem readPoint_writePoint
    (hcv : ((Codec.lookUpCurve C).run L.backend E).result = .ok cv)
    (hkey : ((Codec.readPoint cv qx qy).run L.backend E').result = .ok (some key)) :
    (∀ s, ((Codec.writePoint key).run L.backend s).result = .ok (qx.trim, qy.trim)) ∧
      (qx.trim ≠ [] ∧ qy.trim ≠ [] → ∀ s,
        ((Codec.readPoint cv qx.trim qy.trim).run L.backend s).result = .ok (some key)) ∧
      (qx.trim = [] ∨ qy.trim = [] → ∀ s, ∃ f,
        ((Codec.readPoint cv qx.trim qy.trim).run L.backend s).result = .error f ∧
          f.kind = .encoding) := by
  obtain ⟨-, hc⟩ := L.faithful.of_lookUpCurve hcv
  obtain ⟨Q, hk, hQ⟩ := L.faithful.of_readPoint hc hkey
  refine ⟨L.faithful.writePoint_trim hk hQ, ?_, L.faithful.readPoint_refuses hc⟩
  rintro ⟨hx, hy⟩ s
  obtain ⟨k, hresult, hk'⟩ := L.faithful.readPoint_trim hc hQ hx hy s
  rw [hresult, L.publicKey_unique hk' hk]

/-- The second coordinate of a point on the curve of 256 bits whose first one is zero. -/
def overZero : Octets :=
  .ofNat 0x66485c780e2f83d72433bd5d84a06bb6541c2af31dae871728bf856a174f93f4

/-- **There is a valid point that cannot be read from what is written of it**, on either
backend. -/
theorem exists_refused_again :
    ∃ (cv : L.values.Curve) (key : L.values.PublicKey),
      ((Codec.lookUpCurve .p256).run L.backend { numbers := id }).result = .ok cv ∧
      ((Codec.readPoint cv [0] overZero).run L.backend { numbers := id }).result =
        .ok (some key) ∧
      (∀ s, ((Codec.writePoint key).run L.backend s).result = .ok ([], overZero)) ∧
      ∀ s, ∃ f, ((Codec.readPoint cv [] overZero).run L.backend s).result = .error f ∧
        f.kind = .encoding := by
  obtain ⟨cv, key, hcv, hkey⟩ : ∃ (cv : L.values.Curve) (key : L.values.PublicKey),
      ((Codec.lookUpCurve .p256).run L.backend { numbers := id }).result = .ok cv ∧
      ((Codec.readPoint cv [0] overZero).run L.backend { numbers := id }).result =
        .ok (some key) := by
    cases L with
    | bigInteger =>
      refine ⟨.standard .p256, ⟨.standard .p256, 0, overZero.value⟩, rfl, ?_⟩
      decide +kernel
    | fixedWidth =>
      refine ⟨⟨.p256, .standard .p256, .sha256⟩, ⟨.standard .p256, 0, overZero.value⟩, rfl, ?_⟩
      decide +kernel
  have htrim : overZero.trim = overZero := Octets.trim_eq_self (Octets.trimmed_ofNat _)
  obtain ⟨hwritten, -, hrefused⟩ := L.readPoint_writePoint hcv hkey
  rw [htrim] at hwritten hrefused
  exact ⟨cv, key, hcv, hkey, hwritten, hrefused (.inl rfl)⟩

end Library

end EcdsaVectors
