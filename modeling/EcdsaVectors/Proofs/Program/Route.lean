/-
The route of a program.

A program passes stations in a fixed order: checks of what it has at hand, and requests.  It is
stopped at the first station that it does not pass, which says what becomes of it, and asks for
nothing after that.

* `Request.stop?`: the answers that stop a program;
* `Goes l t r`: the requests `t` go along the route `l` and come to `r`, be it that all
  stations have been passed or that one has stopped them;
* `Keeps p l E L`: the program `p` keeps to the route `l`, whatever the answers are, and tells of
  the slot what stands in `L`.  Routes are put one after the other like programs (`Keeps.bind`,
  `Keeps.bind_ends`).

The route of a program tells more than the order of the requests: which methods are called
(`Keeps.follows`), where a fault can come from (`Keeps.fault_cases`, `Keeps.exists_fault`), and
that nothing is reported that does not fit the result (`Ends.candid`).
-/
import EcdsaVectors.Proofs.Program.Reports
namespace EcdsaVectors

variable {V : Values} {σ α β : Type}

/-! ## Stations -/

/-- A station of a route. -/
inductive Station (V : Values) where
  /-- A check of what is at hand, and the fault that it ends in if it is not passed. -/
  | check (passed : Prop) (fault : Fault)
  /-- A request of the given form. -/
  | ask {m : Method} (form : Request V m → Prop)

namespace Station

/-- The station of a request that is known beforehand. -/
def exactly {m : Method} (q : Request V m) : Station V := ask (· = q)

/-- The station of any request of a method. -/
def any (m : Method) : Station V := ask fun _ : Request V m => True

/-- The method that is called at a station. -/
def method? : Station V → Option Method
  | check _ _ => none
  | @ask _ m _ => some m

@[simp] lemma method?_check (P : Prop) (f : Fault) : (check P f : Station V).method? = none := rfl

@[simp] lemma method?_exactly {m : Method} (q : Request V m) : (exactly q).method? = some m := rfl

@[simp] lemma method?_any (m : Method) : (any m : Station V).method? = some m := rfl

end Station

/-- What a fault stops a program with. -/
def Fault.stop? : Except Fault α → Option (Except Fault Unit)
  | .ok _ => none
  | .error f => some (.error f)

lemma Fault.stop?_eq_error {x : Except Fault α} {f : Fault} :
    stop? x = some (.error f) ↔ x = .error f := by
  cases x <;> simp [stop?]

/-- What an answer stops a program with, if it does: a fault, or no fault where it is found that
there is no valid public key. -/
def Request.stop? : {m : Method} → Request V m → m.Answer V → Option (Except Fault Unit)
  | _, .curve name, a => Fault.stop? ((Fault.unsupportedCurve name).unless a)
  | _, .digest name, a => Fault.stop? ((Fault.unsupportedHash name).unless a)
  | _, .generateKeyPair _, a => Fault.stop? a
  | _, .privateScalar _, a => Fault.stop? a
  | _, .publicKey _, a => Fault.stop? a
  | _, .publicKeyOfCoordinates _ _ _, .error f => some (.error f)
  | _, .publicKeyOfCoordinates _ _ _, .ok none => some (.ok ())
  | _, .publicKeyOfCoordinates _ _ _, .ok (some _) => none
  | _, .coordinates _, a => Fault.stop? a
  | _, .integerOfOctets _, a => Fault.stop? a
  | _, .octetsOfInteger _, _ => none
  | _, .sign _ _ _, a => Fault.stop? a
  | _, .verify _ _ _ _, a => Fault.stop? a
  | _, .signatureOfComponents _ _, a => Fault.stop? a
  | _, .components _, a => Fault.stop? a

/-- The requests pass the station and come to nothing yet: there are none at a check, and one
that is not stopped at a request. -/
inductive Station.Passed : Station V → List (Entry V) → Prop
  | check {P : Prop} {f : Fault} (hP : P) : (Station.check P f).Passed []
  | ask {m : Method} {form : Request V m → Prop} {q : Request V m} {a : m.Answer V}
      (hq : form q) (ha : q.stop? a = none) : (Station.ask form).Passed [.asked q a]

/-- The requests are stopped at the station, and come to `r`. -/
inductive Station.Stops : Station V → List (Entry V) → Except Fault Unit → Prop
  | check {P : Prop} {f : Fault} (hP : ¬ P) : (Station.check P f).Stops [] (.error f)
  | ask {m : Method} {form : Request V m → Prop} {q : Request V m} {a : m.Answer V}
      {r : Except Fault Unit} (hq : form q) (ha : q.stop? a = some r) :
      (Station.ask form).Stops [.asked q a] r

/-! ## Routes -/

/-- The requests pass all stations of the route, one after the other. -/
inductive Passes : List (Station V) → List (Entry V) → Prop
  | nil : Passes [] []
  | cons {x : Station V} {l : List (Station V)} {t u : List (Entry V)} (hx : x.Passed t)
      (hl : Passes l u) : Passes (x :: l) (t ++ u)

/-- The requests pass the stations of the route up to the first at which they are stopped, and
come to `r` there. -/
inductive Cut (l : List (Station V)) : List (Entry V) → Except Fault Unit → Prop
  | first {before after : List (Station V)} {x : Station V} {t u : List (Entry V)}
      {r : Except Fault Unit} (hl : l = before ++ x :: after) (ht : Passes before t)
      (hu : x.Stops u r) : Cut l (t ++ u) r

/-- The requests go along the route and come to `r`: either they pass all stations, or they are
stopped at the first that they do not pass. -/
inductive Goes (l : List (Station V)) (t : List (Entry V)) : Except Fault Unit → Prop
  | through (h : Passes l t) : Goes l t (.ok ())
  | stopped {r : Except Fault Unit} (h : Cut l t r) : Goes l t r

section

variable {l l' : List (Station V)} {t u : List (Entry V)} {r : Except Fault Unit}

lemma Passes.one {x : Station V} (h : x.Passed t) : Passes [x] t := by
  rw [← List.append_nil t]
  exact .cons h .nil

lemma Cut.here {x : Station V} (h : x.Stops t r) : Cut (x :: l) t r :=
  .first (List.nil_append _).symm .nil h

lemma Passes.append (h : Passes l t) (h' : Passes l' u) : Passes (l ++ l') (t ++ u) := by
  induction h with
  | nil => exact h'
  | cons hx hl ih =>
    rw [List.append_assoc]
    exact .cons hx ih

lemma Cut.append (h : Cut l t r) (l' : List (Station V)) : Cut (l ++ l') t r := by
  obtain ⟨rfl, ht, hu⟩ := h
  exact .first (List.append_assoc _ _ _) ht hu

lemma Cut.ne_nil (h : Cut l t r) : l ≠ [] := by
  obtain ⟨rfl, -, -⟩ := h
  simp

/-- What comes after stations that have been passed can be cut. -/
lemma Passes.cut_append (h : Passes l t) (h' : Cut l' u r) : Cut (l ++ l') (t ++ u) r := by
  obtain ⟨rfl, ht, hu⟩ := h'
  rw [← List.append_assoc t]
  exact .first (List.append_assoc _ _ _).symm (h.append ht) hu

lemma Passes.goes_append (h : Passes l t) (h' : Goes l' u r) : Goes (l ++ l') (t ++ u) r := by
  cases h' with
  | through h' => exact .through (h.append h')
  | stopped h' => exact .stopped (h.cut_append h')

lemma Passes.methods_eq (h : Passes l t) : methods t = l.filterMap Station.method? := by
  induction h with
  | nil => rfl
  | cons hx hl ih =>
    rw [methods_append, ih]
    cases hx <;> rfl

/-- The methods that are called are those of the route, in this order, as far as it is gone. -/
lemma Goes.isPrefix_methods (h : Goes l t r) : methods t <+: l.filterMap Station.method? := by
  cases h with
  | through h => exact h.methods_eq ▸ List.prefix_rfl
  | stopped h =>
    obtain ⟨rfl, ht, hu⟩ := h
    rw [methods_append, ht.methods_eq, List.filterMap_append, List.prefix_append_right_inj]
    cases hu with
    | check hP => exact List.nil_prefix
    | ask hq ha => exact List.prefix_append [_] _

end

/-! ## Requests that go wrong -/

/-- A request that goes wrong stops the program with a fault. -/
lemma Request.exists_stop?_of_upset {m : Method} {q : Request V m} {a : m.Answer V} {f : Fault}
    (h : m.upset? V (.fault f) = some a) : ∃ g, q.stop? a = some (.error g) := by
  cases q with
  | octetsOfInteger i => cases h
  | _ =>
    obtain rfl := Option.some.inj h
    exact ⟨_, rfl⟩

lemma Passes.not_goesWrong {l : List (Station V)} {t : List (Entry V)} (h : Passes l t) :
    ¬ GoesWrong t := by
  induction h with
  | nil =>
    rintro ⟨m, q, a, f, ⟨⟩, -⟩
  | cons hx hl ih =>
    rintro ⟨m, q, a, f, ha, hf⟩
    rcases List.mem_append.1 ha with ha | ha
    · cases hx with
      | check hP => cases ha
      | ask hq hpassed =>
        cases List.mem_singleton.1 ha
        obtain ⟨g, hg⟩ := Request.exists_stop?_of_upset hf
        cases hpassed.symm.trans hg
    · exact ih ⟨m, q, a, f, ha, hf⟩

lemma Cut.not_goesWrong {l : List (Station V)} {t : List (Entry V)} (h : Cut l t (.ok ())) :
    ¬ GoesWrong t := by
  obtain ⟨rfl, ht, hu⟩ := h
  rintro ⟨m, q, a, f, ha, hf⟩
  rcases List.mem_append.1 ha with ha | ha
  · exact ht.not_goesWrong ⟨m, q, a, f, ha, hf⟩
  · cases hu with
    | ask hq hstop =>
      cases List.mem_singleton.1 ha
      obtain ⟨g, hg⟩ := Request.exists_stop?_of_upset hf
      cases hstop.symm.trans hg

lemma Goes.not_goesWrong {l : List (Station V)} {t : List (Entry V)} (h : Goes l t (.ok ())) :
    ¬ GoesWrong t := by
  cases h with
  | through h => exact h.not_goesWrong
  | stopped h => exact h.not_goesWrong

/-- Where a route is cut by a fault, this is the fault of a check, or of the answer to the last
request. -/
lemma Cut.fault_cases {l : List (Station V)} {t : List (Entry V)} {f : Fault}
    (h : Cut l t (.error f)) :
    (∃ P, .check P f ∈ l ∧ ¬ P) ∨ ∃ (m : Method) (q : Request V m) (a : m.Answer V),
      .asked q a ∈ t ∧ q.stop? a = some (.error f) := by
  obtain ⟨rfl, ht, hu⟩ := h
  cases hu with
  | check hP => exact .inl ⟨_, by simp, hP⟩
  | ask hq hstop => exact .inr ⟨_, _, _, by simp, hstop⟩

/-! ## Programs that keep to a route -/

namespace Program

/-- The program keeps to the route `l`.  It passes all stations unless it comes to a fault or to
one of the values `E`, for which it is stopped without a fault.  Of the slot it tells what stands
in `L` if it comes to a value. -/
structure Keeps (p : Program V α) (l : List (Station V)) (E : α → Prop)
    (L : List Event := []) : Prop where
  error {t : List (Entry V)} {f : Fault} (h : p.Course t (.error f)) : Cut l t (.error f)
  stop {t : List (Entry V)} {a : α} (h : p.Course t (.ok a)) (ha : E a) : Cut l t (.ok ())
  pass {t : List (Entry V)} {a : α} (h : p.Course t (.ok a)) (ha : ¬ E a) : Passes l t
  speaks (t : List (Entry V)) (r : Except Fault α) (h : p.Tale t r) : Speaks L t r

/-- The program goes along the route `l`, comes to what this comes to, and tells of the slot what
stands in `L` if it comes to a value. -/
structure Ends (p : Program V α) (l : List (Station V)) (L : List Event := []) : Prop where
  goes (t : List (Entry V)) (r : Except Fault α) (h : p.Course t r) :
    Goes l t (r.map fun _ => ())
  speaks (t : List (Entry V)) (r : Except Fault α) (h : p.Tale t r) : Speaks L t r

variable {p : Program V α} {f : α → Program V β} {l l' : List (Station V)} {E : α → Prop}
  {F : β → Prop} {L : List Event}

namespace Ends

lemma callsOnly (h : Ends p l L) : CallsOnly p (l.filterMap Station.method?) := by
  intro t r ht
  have hgoes := h.goes t r ht
  exact hgoes.isPrefix_methods.subset

lemma candid {B : Backend V σ} (hB : B.Discreet) (h : Ends p l L) : Candid B p L := by
  refine .of_speaks hB h.speaks fun t a ht => ?_
  exact (h.goes t _ ht).not_goesWrong

end Ends

namespace Keeps

/-! ### What follows from the route -/

lemma ends (h : Keeps p l E L) : Ends p l L where
  goes t r hr := by
    cases r with
    | error f => exact .stopped (h.error hr)
    | ok a =>
      by_cases ha : E a
      · exact .stopped (h.stop hr ha)
      · exact .through (h.pass hr ha)
  speaks := h.speaks

/-- The methods of the route are called in its order, and all of them where nothing stops the
program. -/
lemma follows (h : Keeps p l (fun _ => False) L) : Follows p (l.filterMap Station.method?) := by
  intro t r hr
  refine ⟨(h.ends.goes t r hr).isPrefix_methods, ?_⟩
  rintro a rfl
  exact (h.pass hr id).methods_eq

/-- A program has no other faults than the checks and the requests on its route. -/
lemma fault_cases {B : Backend V σ} {s : σ} {f : Fault} (h : Keeps p l E L)
    (hf : (p.run B s).result = .error f) : (∃ Q, .check Q f ∈ l ∧ ¬ Q) ∨
      ∃ (m : Method) (q : Request V m) (b : σ), m ∈ l.filterMap Station.method? ∧
        q.stop? (B.respond q b).answer = some (.error f) := by
  have hcut := h.error (hf ▸ course_run B p s)
  rcases hcut.fault_cases with hcheck | ⟨m, q, a, ha, hstop⟩
  · exact .inl hcheck
  · obtain ⟨b, rfl⟩ := exists_respond_of_asked (mem_requests.1 ha)
    have hm := (Goes.stopped hcut).isPrefix_methods.subset (mem_methods ha)
    exact .inr ⟨m, q, b, hm, hstop⟩

/-- A program that can only be stopped by a fault is refused if a method on its route always goes
wrong. -/
lemma exists_fault {B : Backend V σ} {x : Method} (h : Keeps p l (fun _ => False) L)
    (hx : x ∈ l.filterMap Station.method?)
    (hwrong : ∀ (q : Request V x) (s : σ), ∃ f, x.upset? V (.fault f) = some (B.respond q s).answer)
    (s : σ) : ∃ f, (p.run B s).result = .error f := by
  have hcourse := course_run B p s
  cases hr : (p.run B s).result with
  | error f => exact ⟨f, rfl⟩
  | ok a =>
    rw [hr] at hcourse
    have hpasses := h.pass hcourse id
    rw [← hpasses.methods_eq] at hx
    obtain ⟨q, y, hy⟩ := exists_of_mem_methods hx
    obtain ⟨b, rfl⟩ := exists_respond_of_asked (mem_requests.1 hy)
    obtain ⟨f, hf⟩ := hwrong q b
    exact absurd ⟨x, q, _, f, hy, hf⟩ hpasses.not_goesWrong

/-! ### How programs keep to a route -/

lemma pure {a : α} : Keeps (pure a : Program V α) [] fun _ => False where
  error := by rintro t f ⟨-, ⟨⟩⟩
  stop _ := False.elim
  pass := by
    rintro t b ⟨rfl, -⟩ -
    exact .nil
  speaks := by
    rintro t r ⟨rfl, rfl⟩
    exact ⟨rfl, by rintro e ⟨⟩⟩

lemma log {e : Event} (he : e.IsRemark) (h : Keeps p l E L) : Keeps (Program.log e p) l E L where
  error := h.error
  stop := h.stop
  pass := h.pass
  speaks := by
    rintro t r ⟨u, rfl, hu⟩
    have hspeaks := h.speaks u r hu
    cases r with
    | error f => exact (slotEvents_cons_of_not he.1 u).trans hspeaks
    | ok a =>
      exact ⟨(slotEvents_cons_of_not he.1 u).trans hspeaks.1,
        List.forall_mem_cons.2 ⟨he.2, hspeaks.2⟩⟩

/-- A program that ends by telling of the slot. -/
lemma tell {e : Event} {a : α} (hslot : e.ofSlot = true) (hlevel : e.level ≠ .error) :
    Keeps (Program.log e (.done a) : Program V α) [] (fun _ => False) [e] where
  error := pure.error
  stop := pure.stop
  pass := pure.pass
  speaks := by
    rintro t r ⟨u, rfl, rfl, rfl⟩
    exact ⟨List.filter_cons_of_pos hslot, List.forall_mem_singleton.2 hlevel⟩

lemma refuse {P : Prop} {e : Event} {f : Fault} (hP : ¬ P) (he : e.ofSlot = false) :
    Keeps (Program.refuse e f : Program V α) (.check P f :: l) E L where
  error := by
    rintro t f' ⟨rfl, ⟨⟩⟩
    exact .here (.check hP)
  stop := by rintro t a ⟨-, ⟨⟩⟩
  pass := by rintro t a ⟨-, ⟨⟩⟩
  speaks := by
    rintro t r ⟨u, rfl, rfl, rfl⟩
    exact slotEvents_cons_of_not he []

lemma passed {P : Prop} {f : Fault} (hP : P) (h : Keeps p l E L) :
    Keeps p (.check P f :: l) E L := by
  have hpassed : Passes [.check P f] ([] : List (Entry V)) := .one (.check hP)
  exact ⟨fun hc => hpassed.cut_append (h.error hc), fun hc ha => hpassed.cut_append (h.stop hc ha),
    fun hc ha => hpassed.append (h.pass hc ha), h.speaks⟩

lemma check {P : Prop} [Decidable P] {e : Event} {f : Fault} (he : e.ofSlot = false)
    (h : Keeps p l E L) :
    Keeps (if P then Program.refuse e f else p) (.check (¬ P) f :: l) E L := by
  split
  · next hP => exact refuse (not_not_intro hP) he
  · next hP => exact h.passed hP

/-- A request by the answer to which the program is refused, or else comes to a value. -/
lemma ask {m : Method} {q : Request V m} {form : Request V m → Prop}
    {k : m.Answer V → Program V α} (hq : form q)
    (hk : ∀ a, (∃ b, k a = .done b ∧ q.stop? a = none) ∨
      ∃ e f, k a = Program.refuse e f ∧ q.stop? a = some (.error f) ∧ e.ofSlot = false) :
    Keeps (Program.ask q k) [.ask form] fun _ => False where
  error := by
    rintro t f ⟨a, u, rfl, hu⟩
    rcases hk a with ⟨b, hb, -⟩ | ⟨e, g, hg, hstop, -⟩
    · cases (hb ▸ hu).2
    · obtain ⟨rfl, ⟨⟩⟩ := hg ▸ hu
      exact .here (.ask hq hstop)
  stop _ := False.elim
  pass := by
    rintro t b ⟨a, u, rfl, hu⟩ -
    rcases hk a with ⟨b, hb, hnone⟩ | ⟨e, g, hg, -, -⟩
    · obtain ⟨rfl, -⟩ := hb ▸ hu
      exact .one (.ask hq hnone)
    · cases (hg ▸ hu).2
  speaks := by
    rintro t r ⟨a, u, rfl, hu⟩
    rcases hk a with ⟨b, hb, -⟩ | ⟨e, g, hg, -, he⟩
    · obtain ⟨rfl, rfl⟩ := hb ▸ hu
      exact ⟨rfl, by rintro e ⟨⟩⟩
    · obtain ⟨v, rfl, rfl, rfl⟩ := hg ▸ hu
      exact slotEvents_cons_of_not he []

/-- A request whose answer is a fault or a value. -/
lemma queryOk {m : Method} {q : Request V m} {form : Request V m → Prop}
    {g : m.Answer V → Except Fault α} (hq : form q)
    (herror : ∀ a f, g a = .error f → q.stop? a = some (.error f))
    (hstop : ∀ a b, g a = .ok b → E b → q.stop? a = some (.ok ()))
    (hpass : ∀ a b, g a = .ok b → ¬ E b → q.stop? a = none) :
    Keeps (query q >>= fun a => ofAnswer (g a)) [.ask form] E where
  error {t f} h := by
    obtain ⟨a, rfl, ha⟩ := course_queryOk.1 h
    exact .here (.ask hq (herror a f ha.symm))
  stop {t b} h hb := by
    obtain ⟨a, rfl, ha⟩ := course_queryOk.1 h
    exact .here (.ask hq (hstop a b ha.symm hb))
  pass {t b} h hb := by
    obtain ⟨a, rfl, ha⟩ := course_queryOk.1 h
    exact .one (.ask hq (hpass a b ha.symm hb))
  speaks := by
    rintro t r ⟨a, u, rfl, hu⟩
    change (ofAnswer (g a)).Tale u r at hu
    cases ha : g a with
    | error f =>
      rw [ha] at hu
      obtain ⟨rfl, rfl⟩ := hu
      rfl
    | ok b =>
      rw [ha] at hu
      obtain ⟨rfl, rfl⟩ := hu
      exact ⟨rfl, by rintro e ⟨⟩⟩

lemma request {m : Method} {q : Request V m} {form : Request V m → Prop}
    {g : m.Answer V → Except Fault α} (hq : form q) (hstop : ∀ a, q.stop? a = Fault.stop? (g a)) :
    Keeps (query q >>= fun a => ofAnswer (g a)) [.ask form] fun _ => False := by
  refine queryOk hq ?_ (fun a b _ hb => hb.elim) ?_
  · intro a f h
    rw [hstop, h]
    rfl
  · intro a b h _
    rw [hstop, h]
    rfl

lemma query {m : Method} {q : Request V m} {form : Request V m → Prop} (hq : form q)
    (hpass : ∀ a, q.stop? a = none) :
    Keeps (Program.query q) [.ask form] fun _ => False :=
  ask hq fun a => .inl ⟨a, rfl, hpass a⟩

/-- What is told by one program after another, if the first has nothing to tell of the slot. -/
lemma speaks_bind (hp : ∀ t r, p.Tale t r → Speaks [] t r)
    (hf : ∀ a t r, (f a).Tale t r → Speaks L t r) {t : List (Entry V)} {r : Except Fault β}
    (h : (p >>= f).Tale t r) : Speaks L t r := by
  rcases tale_bind.1 h with ⟨e, rfl, hu⟩ | ⟨a, u, v, rfl, hu, hv⟩
  · exact hp t _ hu
  · have hfirst := hp u _ hu
    have hsecond := hf a v r hv
    cases r with
    | error e =>
      exact (slotEvents_append u v).trans (by rw [hfirst.1, hsecond]; rfl)
    | ok b =>
      refine ⟨(slotEvents_append u v).trans (by rw [hfirst.1, hsecond.1]; rfl), ?_⟩
      rw [events_append]
      exact List.forall_mem_append.2 ⟨hfirst.2, hsecond.2⟩

/-- One program after another keeps to one route after another. -/
lemma bind (hp : Keeps p l fun _ => False) (hf : ∀ a, Keeps (f a) l' F L) :
    Keeps (p >>= f) (l ++ l') F L where
  error {t e} h := by
    rcases course_bind_error.1 h with h | ⟨a, u, v, rfl, hu, hv⟩
    · exact (hp.error h).append l'
    · exact (hp.pass hu id).cut_append ((hf a).error hv)
  stop {t b} h hb := by
    obtain ⟨a, u, v, rfl, hu, hv⟩ := course_bind_ok.1 h
    exact (hp.pass hu id).cut_append ((hf a).stop hv hb)
  pass {t b} h hb := by
    obtain ⟨a, u, v, rfl, hu, hv⟩ := course_bind_ok.1 h
    exact (hp.pass hu id).append ((hf a).pass hv hb)
  speaks t r := speaks_bind hp.speaks fun a => (hf a).speaks

lemma step {x : Station V} (hp : Keeps p [x] fun _ => False) (hf : ∀ a, Keeps (f a) l' F L) :
    Keeps (p >>= f) (x :: l') F L :=
  hp.bind hf

/-- The first of two programs may be stopped if the second has nothing to ask then. -/
lemma bind_ends (hp : Keeps p l E)
    (hstop : ∀ a, E a → Keeps (f a) [] fun _ => False)
    (hf : ∀ a, ¬ E a → Ends (f a) l') : Ends (p >>= f) (l ++ l') where
  goes t r h := by
    rcases course_bind.1 h with ⟨e, rfl, hu⟩ | ⟨a, u, v, rfl, hu, hv⟩
    · exact .stopped ((hp.error hu).append l')
    by_cases ha : E a
    · -- the second comes to a value at once
      have hend := hstop a ha
      cases r with
      | error e => exact absurd rfl (hend.error hv).ne_nil
      | ok b =>
        cases hend.pass hv id
        rw [List.append_nil]
        exact .stopped ((hp.stop hu ha).append l')
    · exact (hp.pass hu ha).goes_append ((hf a ha).goes v r hv)
  speaks t r := by
    refine speaks_bind hp.speaks fun a => ?_
    by_cases ha : E a
    · exact (hstop a ha).speaks
    · exact (hf a ha).speaks

end Keeps

end Program

end EcdsaVectors
