/-
Backends that go wrong.

A backend `Falters` from another if it answers each request as the other does in some state, or
the request goes wrong: then it gives an answer of a method that is upset, and is silent or
says that it has failed.  Nothing is said of which requests go wrong, and how often; it can be
none at all.  Each backend that is put on stage with a script falters from the one behind it
(`Stage.falters_bigInteger`, `Stage.falters_fixedWidth`).

Whatever falters from one of the two backends is discreet (`Library.discreet_of_falters`).
-/
import EcdsaVectors.Scenario
import EcdsaVectors.Proofs.Backend.Steady
import EcdsaVectors.Proofs.Program.Reports
namespace EcdsaVectors

variable {V : Values} {σ τ : Type}

/-- The reply of a method that is upset: without a word, or if it is a fault, with the word that
the backend has failed. -/
inductive Reply.Wrong {m : Method} : Reply σ (m.Answer V) → Prop
  | silent {u : Upset} {a : m.Answer V} {s : σ} (h : m.upset? V u = some a) : Wrong ⟨a, s, []⟩
  | told {f : Fault} {a : m.Answer V} {s : σ} (h : m.upset? V (.fault f) = some a) :
    Wrong ⟨a, s, [.backendFailed]⟩

/-- The backend `C` answers as `B` does in some state, as long as the request does not go
wrong. -/
def Backend.Falters (C : Backend V τ) (B : Backend V σ) : Prop :=
  ∀ ⦃m : Method⦄ (q : Request V m) (t : τ),
    (∃ s, (C.respond q t).answer = (B.respond q s).answer ∧
      (C.respond q t).events = (B.respond q s).events) ∨ (C.respond q t).Wrong

/-- A backend that falters from a discreet one is discreet. -/
lemma Backend.Falters.discreet {C : Backend V τ} {B : Backend V σ} (h : C.Falters B)
    (hB : B.Discreet) : C.Discreet := by
  intro m q t
  rcases h q t with ⟨s, hanswer, hevents⟩ | hwrong
  · have hs := hB q s
    rw [Reply.Discreet] at hs ⊢
    rwa [hanswer, hevents]
  · generalize C.respond q t = r at hwrong
    cases hwrong with
    | silent =>
      rintro e ⟨⟩
    | told h =>
      intro e he
      obtain rfl := List.mem_singleton.1 he
      exact ⟨rfl, fun _ => ⟨_, h⟩⟩

/-! ## The two backends -/

section

variable {m : Method} {α : Type} {e : Event} {g : Fault} {o : Option α} {s : σ}

/-- A step that gives no value goes wrong by its own fault. -/
lemma Reply.discreet_unless {a : m.Answer V} (he : e.ofSlot = false)
    (h : o = none → m.upset? V (.fault g) = some a) : Reply.Discreet ⟨a, s, e.unless o⟩ := by
  intro e' he'
  cases o with
  | some a => cases he'
  | none =>
    obtain rfl := List.mem_singleton.1 he'
    exact ⟨he, fun _ => ⟨g, h rfl⟩⟩

lemma Event.IsRemark.of_mem_unless {e' : Event} (he : e.IsRemark) (h : e' ∈ e.unless o) :
    e'.IsRemark := by
  cases o with
  | some a => cases h
  | none =>
    obtain rfl := List.mem_singleton.1 h
    exact he

end

lemma Event.isRemark_pointRejected : pointRejected.IsRemark := ⟨rfl, by decide⟩

lemma Event.isRemark_signatureRejected : signatureRejected.IsRemark := ⟨rfl, by decide⟩

/-- What the backend on integers of any size remarks on a signature. -/
lemma BigInteger.isRemark_of_mem_events {found : Finding} {e : Event} (h : e ∈ events found) :
    e.IsRemark := by
  cases found with
  | atInfinity =>
    obtain rfl := List.mem_singleton.1 h
    exact Event.isRemark_signatureRejected
  | _ => cases h

lemma BigInteger.discreet (domains : CurveName → Domain) :
    (Backend.bigInteger domains).Discreet := by
  intro m q s
  cases q with
  | generateKeyPair D =>
    exact Reply.discreet_unless (g := .keyGeneration) rfl fun h =>
      congrArg (some <| Fault.keyGeneration.unless ·) h.symm
  | sign pair h m =>
    exact Reply.discreet_unless (g := .signing) rfl fun h =>
      congrArg (some <| Fault.signing.unless ·) h.symm
  | publicKeyOfCoordinates D x y =>
    exact Reply.discreet_of_isRemark fun e he => Event.isRemark_pointRejected.of_mem_unless he
  | verify Q h m S => exact Reply.discreet_of_isRemark fun e he => isRemark_of_mem_events he
  | _ =>
    rintro e ⟨⟩

/-- What the backend on strings of octets remarks on a signature. -/
lemma FixedWidth.isRemark_of_mem_events {found : Option Finding} {e : Event}
    (h : e ∈ events found) : e.IsRemark := by
  rcases found with _ | found
  · obtain rfl := List.mem_singleton.1 h
    exact ⟨rfl, by decide⟩
  · cases found with
    | valid => cases h
    | outOfRange =>
      obtain rfl := List.mem_singleton.1 h
      exact ⟨rfl, by decide⟩
    | atInfinity | mismatch =>
      obtain rfl := List.mem_singleton.1 h
      exact Event.isRemark_signatureRejected

/-- What it remarks on a point. -/
lemma FixedWidth.isRemark_of_mem_pointEvents {C : Curve} {x y : Octets} {e : Event}
    (h : e ∈ pointEvents C x y) : e.IsRemark := by
  unfold pointEvents at h
  split at h
  · exact Event.isRemark_pointRejected.of_mem_unless h
  · cases h

lemma FixedWidth.discreet (domains : CurveName → Domain) :
    (Backend.fixedWidth domains).Discreet := by
  intro m q s
  cases q with
  | generateKeyPair C =>
    exact Reply.discreet_unless (g := .keyGeneration) rfl fun h =>
      congrArg (some <| Fault.keyGeneration.unless ·) h.symm
  | sign pair h m =>
    exact Reply.discreet_unless (g := .signing) rfl fun h =>
      congrArg (some <| Fault.signing.unless ·) h.symm
  | publicKeyOfCoordinates C x y =>
    exact Reply.discreet_of_isRemark fun e he => isRemark_of_mem_pointEvents he
  | verify Q h m S => exact Reply.discreet_of_isRemark fun e he => isRemark_of_mem_events he
  | _ =>
    rintro e ⟨⟩

/-- **Each backend is discreet, and so is one that goes wrong now and then.** -/
lemma Library.discreet_of_falters {L : Library} {C : Backend L.values σ}
    (h : C.Falters L.backend) : C.Discreet := by
  refine h.discreet ?_
  cases L with
  | bigInteger => exact BigInteger.discreet .standard
  | fixedWidth => exact FixedWidth.discreet .standard

/-! ## On stage -/

/-- A backend on stage falters from the one behind it, if this makes the key pairs of the
script when it draws their scalars. -/
lemma Stage.falters_scripted {G : Stage V}
    (h : ∀ cv d pair, G.keyPair? cv d = some pair → ∃ E,
      (G.backend.respond (.generateKeyPair cv) E).answer = .ok pair ∧
        (G.backend.respond (.generateKeyPair cv) E).events = []) :
    G.scripted.Falters G.backend := by
  intro m q t
  obtain ⟨S, hS⟩ : ∃ S, t.1.note m = S := ⟨_, rfl⟩
  cases hu : (S.upset? m).bind (m.upset? V) with
  | some a =>
    obtain ⟨u, -, ha⟩ := Option.bind_eq_some_iff.1 hu
    have hreply : G.scripted.respond q t = ⟨a, (S, t.2), []⟩ := by
      simp only [scripted, hS, hu]
    exact .inr (hreply ▸ .silent ha)
  | none =>
    have hreply : G.scripted.respond q t = G.answer q (S, t.2) := by
      simp only [scripted, hS, hu]
    rw [hreply]
    cases q with
    | generateKeyPair cv =>
      change (∃ E, (G.generate cv (S, t.2)).answer = _ ∧ (G.generate cv (S, t.2)).events = _) ∨
        Reply.Wrong (m := .generateKeyPair) (G.generate cv (S, t.2))
      cases hpair : (S.takeKey.1.bind fun d => G.keyPair? cv d.value) with
      | none =>
        -- no key pair is made, as if the method had been upset
        have hgenerate : G.generate cv (S, t.2) =
            ⟨.error .keyGeneration, (S.takeKey.2, t.2), []⟩ := by
          simp only [generate, hpair]
          rfl
        exact .inr (hgenerate ▸ .silent (u := .fault .keyGeneration) rfl)
      | some pair =>
        obtain ⟨d, -, hd⟩ := Option.bind_eq_some_iff.1 hpair
        obtain ⟨E, hanswer, hevents⟩ := h cv d.value pair hd
        have hgenerate : G.generate cv (S, t.2) = ⟨.ok pair, (S.takeKey.2, t.2), []⟩ := by
          simp only [generate, hpair]
          rfl
        exact .inl ⟨E, hgenerate ▸ hanswer.symm, hgenerate ▸ hevents.symm⟩
    | _ => exact .inl ⟨t.2, rfl, rfl⟩

lemma Stage.falters_bigInteger : Stage.bigInteger.scripted.Falters Library.bigInteger.backend := by
  refine Stage.falters_scripted fun D d pair h => ?_
  obtain ⟨⟨hpos, hlt⟩, -⟩ := Domain.keyPair?_eq_some h
  obtain ⟨E, hE⟩ := Entropy.exists_draw hpos hlt
  have hmade : (BigInteger.keyPair? D E).1 = some pair :=
    (congrArg (Option.bind · D.keyPair?) hE).trans h
  exact ⟨E, congrArg (Fault.keyGeneration.unless ·) hmade,
    congrArg (Event.backendFailed.unless ·) hmade⟩

lemma Stage.falters_fixedWidth : Stage.fixedWidth.scripted.Falters Library.fixedWidth.backend := by
  refine Stage.falters_scripted fun C d pair h => ?_
  obtain ⟨p, hp, -⟩ := Option.map_eq_some_iff.1 h
  obtain ⟨⟨hpos, hlt⟩, -⟩ := Domain.keyPair?_eq_some hp
  obtain ⟨E, hE⟩ := Entropy.exists_draw hpos hlt
  have hmade : (FixedWidth.randomKeyPair? C E).1 = some pair :=
    (congrArg (Option.bind · (FixedWidth.keyPair? C)) hE).trans h
  exact ⟨E, congrArg (Fault.keyGeneration.unless ·) hmade,
    congrArg (Event.backendFailed.unless ·) hmade⟩

end EcdsaVectors
