import Bxml.Proofs.Load.Separation

/-!
# When a value is handed over

An instance hands its value over before what is attached to it is applied and its id is registered
(`composeFirst`); the root of an included document is handed over once all that is done
(`composeLast`).  `commutes` says when this comes to the same (`Commutes`), by what takes the value:

* nobody, because the element around has no value or is a definition (`commutes_of_unreceived`);
* a property, which keeps it until it ends (`commutes_of_takesValue`); that needs that objects which
  are values of properties have a parent, an invariant of documents under construction
  (`Draft.AdoptsValues`);
* an object, if the element is bare (`commutes_of_bare`) or separated from the object
  (`commutes_of_separated`).

Where nothing can take the value, or it has a parent already, the load fails either way
(`commutes_of_refused`).
-/

namespace Bxml

open Twins

namespace Twins

variable {S : Twins} {F : Faults} {l : Loader} {G : Ground} {c c' : DocumentContext} {d d' : Draft}
  {e e' : Element} {h h' : Held}

theorem Uniform.applyAttachments (hu : S.Uniform l) (hc : S.SameScope G c c')
    (held : S.SameHeld h h') (language : String) (he : S.SameElement F e e')
    (hs : SameEnd l c c' e) :
    S.SameOp F.toFailing Eq (applyAttachments l c h language e)
      (applyAttachments l c' h' language e') :=
  .bind (hu.applyAttachedAttributes hc held language he hs) fun _ => hu.registerId hc held he

theorem Uniform.composeFirst (hu : S.Uniform l) (hd : S.SameDraft F l G d d')
    (hc : S.SameScope G c c') (he : S.SameElement F e e') (hs : SameEnd l c c' e) :
    S.SameOp F.toFailing (S.SameDraft F l G) (composeFirst l c d e) (composeFirst l c' d' e') := by
  unfold Bxml.composeFirst
  rw [hd.language]
  refine .bind (hu.compose hd he.value (hd.held hc he.heldValues) he.location) fun hd => ?_
  exact .bind (hu.applyAttachments hc (hd.held hc he.heldValues) _ he hs) fun _ => .pure hd

/-- Of an element that is handed over only its value counts, and the objects it holds. -/
theorem Uniform.compose_itself (hl : itself.Uniform l) (c : DocumentContext) (d : Draft)
    (e e' : Element) (hv : e.value = e'.value)
    (held : ∀ o, .object o ∈ e.heldValues ↔ .object o ∈ e'.heldValues) :
    itself.SameOp Faults.all.toFailing (itself.SameDraft .all l (.bare [])) (Bxml.compose l c d e)
      (Bxml.compose l c d e') := by
  refine hl.compose (sameDraft_itself .all l d (List.nil_subset _)) (sameValue_itself.2 hv)
    (sameHeld_itself (fun o => ?_) fun _ => Iff.rfl) fun _ => trivial
  simp only [Draft.held, Held.keep, Held.keepTable, List.mem_append, held]

end Twins

/-- Whether it makes no difference for an element if it is handed over before or after the rest of
its end is done. -/
def Commutes (l : Loader) (c : DocumentContext) (d : Draft) (e : Element) (w : World) : Prop :=
  Alike (fun _ => False) Eq ((composeLast l c d e).runIn w) ((composeFirst l c d e).runIn w)

variable {l : Loader} {c : DocumentContext} {nested : Option NestedLoad} {d d' : Draft} {e : Element}
  {w v : World}

/-! ## Elements that nobody takes -/

/-- For an element that nobody takes it makes no difference when it is handed over. -/
theorem commutes_of_unreceived (h : receiver? d.stack e.location = .ok none) :
    Commutes l c d e w := by
  have kept (e' : Element) (he : e'.location = e.location) : compose l c d e' = pure d := by
    unfold compose
    rw [he, h]
    rfl
  unfold Commutes composeLast composeFirst
  rw [kept { e with attributes := .empty } rfl, kept e rfl, pure_bind]
  exact .refl _

/-- Nor does it for an element that cannot be handed over. -/
theorem commutes_of_refused (h : ∀ e' : Element, e'.value = e.value → e'.location = e.location →
    ∀ u, ∃ f z, (compose l c d e').runIn u = (.error f, z)) : Commutes l c d e w := by
  unfold Commutes composeLast composeFirst
  obtain ⟨f, z, first⟩ := h e rfl rfl w
  rw [Op.bind_runIn_of_error first, Op.bind_runIn]
  split
  · obtain ⟨f', z', last⟩ := h { e with attributes := .empty } rfl rfl _
    rw [last]
    exact .error
  · exact .error

/-- An object that has a parent cannot be handed over. -/
theorem compose_of_parented {r : Receiver} {o : ObjectId}
    (hr : receiver? d.stack e.location = .ok (some r)) (hv : e.value = .object o)
    (ho : o ∈ d.parented) (u : World) : ∃ f z, (compose l c d e).runIn u = (.error f, z) := by
  rw [compose_of_receiver hr, hv, Op.bind_runIn_of_error (adopt_of_mem ho)]
  exact ⟨_, _, rfl⟩

/-- A value that has no parent gets one. -/
theorem adopt_eq_pure (h : ∀ o, e.value = .object o → o ∉ d.parented) :
    adopt e.value e.location d.parented = pure (e.value.object?.toList ++ d.parented) :=
  funext fun _ => adopt_eq_ok.2 ⟨rfl, h, rfl⟩

/-! ## Bare elements -/

/-- What is under construction after a value was handed over depends on the value only. -/
theorem compose_draft (e e' : Element) (hv : e.value = e'.value) (hl : e.location = e'.location)
    {a a' : Draft} {w' v' : World} (h : (compose l c d e).runIn w = (.ok a, v))
    (h' : (compose l c d e').runIn w' = (.ok a', v')) : a = a' := by
  obtain ⟨hr, rfl, -⟩ | ⟨r, parented, hr, ha, ht⟩ := compose_eq_ok h
  · obtain ⟨-, rfl, -⟩ | ⟨r', _, hr', -⟩ := compose_eq_ok h'
    · rfl
    · rw [← hl, hr] at hr'
      cases hr'
  · obtain ⟨hr', -⟩ | ⟨r', parented', hr', ha', ht'⟩ := compose_eq_ok h'
    · rw [← hl, hr] at hr'
      cases hr'
    · rw [← hl, hr] at hr'
      obtain rfl : r = r' := by simpa using hr'
      obtain ⟨-, -, rfl⟩ := adopt_eq_ok.1 ha
      obtain ⟨-, -, rfl⟩ := adopt_eq_ok.1 ha'
      rw [hv] at ht
      cases r with
      | element => exact (Receiver.take_eq_ok ht).trans (Receiver.take_eq_ok ht').symm
      | object o => exact (Receiver.take_eq_ok ht).trans (Receiver.take_eq_ok ht').symm

/-- Whether an element has no id, nothing is attached to it, and its attributes hold no objects. -/
structure Element.IsBare (e : Element) : Prop where
  id : e.id = none
  attached : e.attached = []
  attributes : ∀ o, .object o ∉ e.attributes.values

/-- For a bare element it makes no difference when it is handed over. -/
theorem commutes_of_bare (hl : l.IsDeterministic) (he : e.IsBare) : Commutes l c d e w := by
  have nothing (h : Held) (language : String) : applyAttachments l c h language e = pure () := by
    unfold applyAttachments applyAttachedAttributes registerId
    rw [he.id, he.attached]
    rfl
  have members (o : ObjectId) : .object o ∈ Element.heldValues { e with attributes := .empty } ↔
      .object o ∈ e.heldValues := by
    change Value.object o ∈ [e.value] ↔ Value.object o ∈ e.value :: e.attributes.values
    simp [he.attributes o]
  have composed := (hl.compose_itself c d { e with attributes := .empty } e rfl members).alike
    (.refl w)
  unfold Commutes composeLast composeFirst
  simp only [nothing, pure_bind, bind_pure]
  generalize hr : (compose l c d { e with attributes := .empty }).runIn w = r at composed
  generalize hr' : (compose l c d e).runIn w = r' at composed
  cases composed with
  | ok _ hw => exact .ok (compose_draft { e with attributes := .empty } e rfl rfl hr hr') hw
  | error => exact .error
  | lost h => exact h.elim

/-! ## Elements that a property takes -/

/-- A document in which a value has got a parent. -/
abbrev Draft.adopting (d : Draft) (v : Value) : Draft :=
  { d with parented := v.object?.toList ++ d.parented }

/-- The objects that are held stay the same when a value that is held gets a parent. -/
theorem sameHeld_adopting (d : Draft) (c : DocumentContext) (e : Element) :
    itself.SameHeld (d.held c e.heldValues) ((d.adopting e.value).held c e.heldValues) := by
  refine sameHeld_itself (fun o => ?_) fun _ => Iff.rfl
  have value : e.value.object? = some o ↔ e.value = .object o := Value.object?_eq_some
  simp only [Draft.held, Draft.heldValues, Held.keep, Held.keepTable,
    Element.heldValues, List.map_append, List.mem_append, List.mem_cons, List.mem_map,
    Value.object.injEq, exists_eq_right, Option.mem_toList, value, eq_comm (a := Value.object o)]
  grind

/-- Nor do they change when the value then takes the place of one that has a parent. -/
theorem sameHeld_setValue {x : Element} {outer : List Element} (hs : d.stack = x :: outer)
    (hv : ∀ o, x.value = .object o → o ∈ d.parented) :
    itself.SameHeld (d.held c e.heldValues)
      (((d.adopting e.value).setValue e.value).held c e.heldValues) := by
  refine sameHeld_itself (fun o => ?_) fun _ => Iff.rfl
  have value : e.value.object? = some o ↔ e.value = .object o := Value.object?_eq_some
  have mine := hv o
  simp only [Draft.held, Draft.heldValues, Draft.setValue, Held.keep, Held.keepTable, hs,
    List.flatMap_cons, Element.heldValues, List.map_append, List.mem_append,
    List.mem_cons, List.mem_map, Value.object.injEq, exists_eq_right, Option.mem_toList, value,
    eq_comm (a := Value.object o)]
  grind

/-- Whether every object that is the value of a property has a parent. -/
def Draft.AdoptsValues (d : Draft) : Prop :=
  ∀ x ∈ d.stack, x.kind.takesValue = true → ∀ o, x.value = .object o → o ∈ d.parented

/-- An element that becomes the value of a property may be handed over before or after the rest of
its end is done. -/
theorem commutes_of_takesValue (hl : l.IsDeterministic) (hd : d.AdoptsValues)
    (hr : receiver? d.stack e.location = .ok (some .element)) : Commutes l c d e w := by
  obtain ⟨x, outer, hs, hx⟩ := receiver?_eq_element hr
  have handed (e' : Element) (hv : e'.value = e.value) (hl : e'.location = e.location) :
      compose l c d e' = (do
        let parented ← adopt e.value e.location d.parented
        return ({ d with parented := parented } : Draft).setValue e.value) := by
    rw [← hv, ← hl]
    exact compose_of_receiver (r := .element) (hl ▸ hr)
  by_cases hp : ∀ o, e.value = .object o → o ∉ d.parented
  · unfold Commutes composeLast composeFirst
    rw [handed e rfl rfl, handed { e with attributes := .empty } rfl rfl, adopt_eq_pure hp,
      pure_bind, pure_bind]
    have attached := hl.applyAttachments (F := .all) (sameContext_itself c []).toSameScope
      (sameHeld_setValue (c := c) (e := e) hs (hd x (hs ▸ List.mem_cons_self) hx)) (d.languageIn l)
      (sameElement_itself .all e) (.of_location rfl e)
    exact (attached.alike (.refl w)).bind fun _ _ hu => .ok rfl hu
  · push Not at hp
    obtain ⟨o, ho, hp⟩ := hp
    exact commutes_of_refused fun e' hv hl => compose_of_parented (hl ▸ hr) (hv.trans ho) hp

/-! ## Elements that an object takes -/

/-- An element may be handed to an object before or after the rest of its end is done if the two are
separated. -/
theorem commutes_of_separated (hl : l.IsDeterministic) {o : ObjectId} {B : Region}
    (hr : receiver? d.stack e.location = .ok (some (.object o))) (hs : Separated l c d e o w B) :
    Commutes l c d e w := by
  have handed (e' : Element) (hv : e'.value = e.value) (hl : e'.location = e.location) :
      compose l c d e' = (do
        let parented ← adopt e.value e.location d.parented
        addChild l (d.held c e'.heldValues) o e.value e.location
        return { d with parented := parented }) := by
    rw [← hv, ← hl]
    exact compose_of_receiver (r := .object o) (hl ▸ hr)
  by_cases hp : ∀ q, e.value = .object q → q ∉ d.parented
  · unfold Commutes composeLast composeFirst
    rw [handed e rfl rfl, handed { e with attributes := .empty } rfl rfl, adopt_eq_pure hp,
      pure_bind, pure_bind]
    have within : (d.held c [e.value]).Within (d.held c e.heldValues) := by
      refine ⟨List.append_subset.2 ⟨List.append_subset.2 ⟨?_, ?_⟩, ?_⟩, List.Subset.refl _⟩
      · exact fun v hv => List.mem_append_left _ (List.mem_append_left _ hv)
      · exact fun v hv => List.mem_append_left _ (List.mem_append_right _
          (List.cons_subset_cons _ (List.nil_subset _) hv))
      · exact fun v hv => List.mem_append_right _ hv
    have swapped := Op.alike_of_confined_of_skirts hs.taking hs.skirts_attachments (.refl _) within
    have attached := hl.applyAttachments (F := .all) (sameContext_itself c []).toSameScope
      (sameHeld_adopting d c e) (d.languageIn l) (sameElement_itself .all e) (.of_location rfl e)
    have rest : Alike (fun _ => False) Eq
        ((addChild l (d.held c e.heldValues) o e.value e.location >>= fun _ =>
          applyAttachments l c (d.held c e.heldValues) (d.languageIn l) e).runIn w)
        ((addChild l (d.held c e.heldValues) o e.value e.location >>= fun _ =>
          applyAttachments l c ((d.adopting e.value).held c e.heldValues) (d.languageIn l)
            e).runIn w) :=
      Alike.bind (.refl _) fun _ _ hu => attached.alike hu
    have whole := Alike.bind (swapped.trans rest)
      (f := fun _ => pure (d.adopting e.value)) (g := fun _ => pure (d.adopting e.value)) (Q := Eq)
      fun _ _ hu => .ok rfl hu
    simp only [bind_assoc, pure_bind] at whole ⊢
    exact whole
  · push Not at hp
    obtain ⟨q, hq, hp⟩ := hp
    exact commutes_of_refused fun e' hv hl => compose_of_parented (hl ▸ hr) (hv.trans hq) hp

/-! ## All elements -/

/-- For an element it makes no difference when it is handed over, unless an object takes it that it is
not separated from. -/
theorem commutes (hl : l.IsDeterministic) (hd : d.AdoptsValues)
    (h : ∀ o, receiver? d.stack e.location = .ok (some (.object o)) →
      e.IsBare ∨ ∃ B, Separated l c d e o w B) : Commutes l c d e w := by
  cases hr : receiver? d.stack e.location with
  | error f =>
    refine commutes_of_refused fun e' _ hl u => ⟨f, u, ?_⟩
    unfold compose
    rw [hl, hr]
    rfl
  | ok r =>
    cases r with
    | none => exact commutes_of_unreceived hr
    | some r =>
      cases r with
      | element => exact commutes_of_takesValue hl hd hr
      | object o =>
        obtain bare | ⟨B, separated⟩ := h o hr
        · exact commutes_of_bare hl bare
        · exact commutes_of_separated hl hr separated

end Bxml
