import Bxml.Proofs.Load.Shapes

/-!
# Markup that means the same in every document

Values of attributes that are neither bindings nor locations, and sources that are not relative,
mean the same wherever they stand.  While a document is read that has no others, no element waits
for a binding, and the end of an open element means the same in every document.

* `Xml.MarkupAttribute.IsPortable` and `Xml.StartTag.IsPortable` are conditions on markup, and
  `Loader.IsFixed` is one on sources; `of_literal` and `of_reference` meet the first for values that
  are written down and for references.
* `Element.IsPortable` and `Draft.IsPortable` are what becomes of them while a document is built,
  and `IsPortable.step` carries it through an event.

They are conditions for comparing an included document with the including one, in
`Load/Splicing.lean`.
-/

namespace Bxml

/-- Whether a source is the same in all documents that have a location: it is not relative. -/
def Loader.IsFixed (l : Loader) (src : String) : Prop :=
  ∀ c c' : DocumentContext, c.location.isSome = true → c'.location.isSome = true →
    l.sourceUrl c src = l.sourceUrl c' src

/-- A source that starts with a slash is relative to the root location. -/
theorem Loader.isFixed_of_slash (l : Loader) {src : String} {r : List Char}
    (h : src.toList = '/' :: r) : l.IsFixed src := by
  intro c c' _ _
  simp only [Loader.sourceUrl, h]

/-- Whether the value of an attribute means the same in every document and at once. -/
structure Xml.MarkupAttribute.IsPortable (a : Xml.MarkupAttribute) : Prop where
  unbound : ∀ expression, AttributeForm.read a.value ≠ .ok (.binding expression)
  located : ∀ relative, AttributeForm.read a.value ≠ .ok (.location relative)

theorem Xml.MarkupAttribute.IsPortable.of_literal {a : Xml.MarkupAttribute} (text : String)
    (h : AttributeForm.read a.value = .ok (.literal text)) : a.IsPortable := by
  constructor <;> intro s hs <;> rw [h] at hs <;> cases hs

theorem Xml.MarkupAttribute.IsPortable.of_reference {a : Xml.MarkupAttribute} (id : String)
    (h : AttributeForm.read a.value = .ok (.reference id)) : a.IsPortable := by
  constructor <;> intro s hs <;> rw [h] at hs <;> cases hs

/-- Whether the start of an element means the same in every document, but for the document that it
may include. -/
structure Xml.StartTag.IsPortable (l : Loader) (tag : Xml.StartTag) : Prop where
  attributes : ∀ a ∈ tag.attributes, a.IsPortable
  script : tag.space = some Xml.controlPrefix → tag.name = scriptTag → ∀ a ∈ tag.attributes,
    a.name = srcAttribute → l.IsFixed a.value

/-- Whether the end of an element means the same in every document. -/
structure Element.IsPortable (l : Loader) (e : Element) : Prop where
  attached : ∀ a ∈ e.attached, ∀ relative, AttributeForm.read a.value ≠ .ok (.location relative)
  script : e.kind = .script → ∀ src, e.control.get? srcAttribute = some src → l.IsFixed src

/-- Whether the ends of all open elements mean the same in every document, and nothing is bound. -/
structure Draft.IsPortable (l : Loader) (d : Draft) : Prop where
  stack : ∀ e ∈ d.stack, e.IsPortable l
  bindings : d.bindings = []

variable {l : Loader} {c : DocumentContext} {nested : Option NestedLoad} {d d' : Draft} {w v : World}

/-! ## Attributes -/

/-- Only a binding is bound. -/
theorem DocumentContext.resolveAttribute_eq_binding {raw expression : String} {at_ : Location}
    (h : (c.resolveAttribute raw at_).runIn w = (.ok (.binding expression), v)) :
    AttributeForm.read raw = .ok (.binding expression) := by
  simp only [DocumentContext.resolveAttribute, Op.bind_runIn_eq_ok, Op.mapError_runIn_eq_ok,
    Op.ofExcept_runIn_eq_ok] at h
  obtain ⟨form, _, ⟨hf, rfl⟩, h⟩ := h
  rw [hf]
  cases form with
  | binding s =>
    cases h
    rfl
  | literal s => cases h
  | null => cases h
  | location relative =>
    simp only [DocumentContext.resolveForm] at h
    split at h
    · cases h
    · split at h <;> cases h
  | resource key =>
    simp only [DocumentContext.resolveForm, Op.bind_runIn_eq_ok] at h
    obtain ⟨_ | _, _, -, h⟩ := h
    · simp only [Op.bind_runIn_eq_ok] at h
      obtain ⟨_, _, -, h⟩ := h
      cases h
    · cases h
  | reference path =>
    simp only [DocumentContext.resolveForm, Op.bind_runIn_eq_ok] at h
    obtain ⟨_, _, -, h⟩ := h
    cases h

namespace Attributed

/-- What an attribute may make of an element. -/
inductive Takes (a : Xml.MarkupAttribute) (x : Attributed) : Attributed → Prop
  | id : Takes a x { x with element := { x.element with id := some a.value } }
  | control : Takes a x (x.addControl a)
  | attached {entry : AttachedAttribute} : entry.value = a.value →
      Takes a x { x with element := { x.element with attached := x.element.attached ++ [entry] } }
  | value (u : Value) : Takes a x (x.addValue a.name u)
  | bound {expression : String} : AttributeForm.read a.value = .ok (.binding expression) →
      Takes a x { x with bound := x.bound ++ [(a.name, expression)] }

theorem takes_of_add {uri : Option String} {x y : Attributed} {a : Xml.MarkupAttribute}
    (h : (Attributed.add c uri x a).runIn w = (.ok y, v)) : Takes a x y := by
  have resolved (h : (x.addResolved c a).runIn w = (.ok y, v)) : Takes a x y := by
    simp only [Attributed.addResolved, Op.bind_runIn_eq_ok] at h
    obtain ⟨u | expression, _, hr, h⟩ := h
    · cases h
      exact .value u
    · cases h
      exact .bound (DocumentContext.resolveAttribute_eq_binding hr)
  unfold Attributed.add at h
  dsimp only at h
  split at h
  · simp only [Attributed.addId, Op.bind_runIn_eq_ok] at h
    obtain ⟨_, _, -, _, _, -, h⟩ := h
    cases h
    exact .id
  · split at h
    · cases h
      exact .control
    · split at h
      · simp only [Attributed.addAttached, Op.bind_runIn_eq_ok] at h
        obtain ⟨_, _, -, h⟩ := h
        cases h
        exact .attached rfl
      · split at h
        · cases h
          exact .value _
        · cases h
        · cases h
        · cases h
        · cases h
        · exact resolved h
        · exact resolved h
        · exact resolved h
        · exact resolved h

/-- What attributes that are portable make of an element. -/
theorem of_foldlM_add {uri : Option String} {as : List Xml.MarkupAttribute} {x y : Attributed}
    (h : (as.foldlM (Attributed.add c uri) x).runIn w = (.ok y, v))
    (ha : ∀ a ∈ as, a.IsPortable) :
    y.element.kind = x.element.kind ∧ y.bound = x.bound ∧
      (∀ m ∈ y.element.attached, m ∈ x.element.attached ∨ ∃ a ∈ as, a.value = m.value) ∧
      ∀ name s, y.element.control.get? name = some s →
        x.element.control.get? name = some s ∨ ∃ a ∈ as, a.name = name ∧ a.value = s := by
  induction as generalizing x w with
  | nil =>
    cases h
    exact ⟨rfl, rfl, fun _ hm => .inl hm, fun _ _ hs => .inl hs⟩
  | cons a as ih =>
    rw [List.foldlM_cons, Op.bind_runIn_eq_ok] at h
    obtain ⟨z, u, hz, h⟩ := h
    rw [List.forall_mem_cons] at ha
    obtain ⟨kind, bound, attached, control⟩ := ih h ha.2
    have first : z.element.kind = x.element.kind ∧ z.bound = x.bound ∧
        (∀ m ∈ z.element.attached, m ∈ x.element.attached ∨ a.value = m.value) ∧
        ∀ name s, z.element.control.get? name = some s →
          x.element.control.get? name = some s ∨ a.name = name ∧ a.value = s := by
      cases takes_of_add hz with
      | id => exact ⟨rfl, rfl, fun _ hm => .inl hm, fun _ _ hs => .inl hs⟩
      | control =>
        refine ⟨rfl, rfl, fun _ hm => .inl hm, fun name s hs => ?_⟩
        simp only [addControl, Entries.get?_insert] at hs
        split at hs
        · next hn => exact .inr ⟨hn.symm, Option.some.inj hs⟩
        · exact .inl hs
      | attached he =>
        refine ⟨rfl, rfl, fun m hm => ?_, fun _ _ hs => .inl hs⟩
        rcases List.mem_append.1 hm with hm | hm
        · exact .inl hm
        · rw [List.mem_singleton.1 hm]
          exact .inr he.symm
      | value => exact ⟨rfl, rfl, fun _ hm => .inl hm, fun _ _ hs => .inl hs⟩
      | bound hb => exact absurd hb (ha.1.unbound _)
    refine ⟨kind.trans first.1, bound.trans first.2.1, fun m hm => ?_, fun name s hs => ?_⟩
    · rcases attached m hm with hm | ⟨b, hb, hv⟩
      · exact (first.2.2.1 m hm).imp_right fun hv => ⟨a, List.mem_cons_self, hv⟩
      · exact .inr ⟨b, List.mem_cons_of_mem _ hb, hv⟩
    · rcases control name s hs with hs | ⟨b, hb, hv⟩
      · exact (first.2.2.2 name s hs).imp_right fun hv => ⟨a, List.mem_cons_self, hv⟩
      · exact .inr ⟨b, List.mem_cons_of_mem _ hb, hv⟩

end Attributed

/-! ## Events -/

theorem controlKind?_eq_script {name : String} (h : controlKind? name = some .script) :
    name = scriptTag := by
  unfold controlKind? at h
  split at h
  · cases h
  · split at h
    · assumption
    · split at h
      · cases h
      · split at h <;> cases h

theorem classifyProperty_uncontrolled {stack : List Element} {name : String} {at_ : Location}
    {found : Classified} (h : (classifyProperty stack name at_).runIn w = (.ok found, v)) :
    found.kind ≠ .script ∧ found.kind ≠ .inclusion := by
  simp only [classifyProperty, Op.bind_runIn_eq_ok] at h
  obtain ⟨parent, _, -, o, _, -, x, _, -, h⟩ := h
  split at h
  · cases h
    exact ⟨nofun, nofun⟩
  · split at h
    · cases h
    · cases h
      exact ⟨nofun, nofun⟩
    · simp only [classifyReadOnly, Op.bind_runIn_eq_ok] at h
      obtain ⟨_, _, -, _, _, -, h⟩ := h
      cases h
      exact ⟨nofun, nofun⟩
    · cases h
      exact ⟨nofun, nofun⟩

/-- Only a control element is a script or includes a document. -/
theorem classify_eq_control {stack : List Element} {tag : Xml.StartTag} {at_ : Location}
    {found : Classified} (h : (classify l stack tag at_).runIn w = (.ok found, v))
    (hk : found.kind = .script ∨ found.kind = .inclusion) :
    tag.space = some Xml.controlPrefix ∧ controlKind? tag.name = some found.kind := by
  unfold classify at h
  split at h
  · next hs =>
    simp only [classifyControl, Op.bind_runIn_eq_ok] at h
    obtain ⟨_, _, -, kind, _, hc, h⟩ := h
    cases h
    refine ⟨hs, ?_⟩
    cases hn : controlKind? tag.name with
    | none =>
      rw [hn] at hc
      cases hc
    | some k =>
      rw [hn] at hc
      cases hc
      rfl
  · split at h
    · simp only [classifyAttached, Op.bind_runIn_eq_ok] at h
      obtain ⟨_, _, -, _, _, -, h⟩ := h
      cases h
      simp at hk
    · split at h
      · simp only [classifyInstance, Op.bind_runIn_eq_ok] at h
        obtain ⟨_, _, -, _, _, -, h⟩ := h
        cases h
        simp at hk
      · split at h
        · cases h
        · obtain ⟨script, inclusion⟩ := classifyProperty_uncontrolled h
          exact hk.elim (absurd · script) (absurd · inclusion)

/-- An element that starts portably ends portably, and waits for no binding. -/
theorem startElement_portable {α : Type} {n : Option α} {tag : Xml.StartTag} {at_ : Location}
    {x : Attributed} {origin : Origin α}
    (h : (startElement l c n d tag at_).runIn w = (.ok (x, origin), v)) (ht : tag.IsPortable l) :
    x.element.IsPortable l ∧ x.bound = [] := by
  simp only [startElement, Op.bind_runIn_eq_ok] at h
  obtain ⟨found, _, hf, y, u, hy, h⟩ := h
  obtain rfl : x = y := by
    split at h
    · simp only [Op.bind_runIn_eq_ok] at h
      obtain ⟨_, _, -, h⟩ := h
      cases h
      rfl
    · simp only [Op.bind_runIn_eq_ok] at h
      obtain ⟨_, _, -, h⟩ := h
      cases h
      rfl
    · cases h
      rfl
  obtain ⟨kind, bound, attached, control⟩ := Attributed.of_foldlM_add hy ht.attributes
  refine ⟨⟨fun m hm => ?_, fun hk src hs => ?_⟩, bound⟩
  · obtain ⟨a, ha, hv⟩ := (attached m hm).resolve_left List.not_mem_nil
    exact hv ▸ (ht.attributes a ha).located
  · have script := kind.symm.trans hk
    obtain ⟨space, name⟩ := classify_eq_control hf (.inl script)
    have name : tag.name = scriptTag := controlKind?_eq_script (name.trans (congrArg some script))
    obtain ⟨a, ha, hn, hv⟩ := (control _ src hs).resolve_left (by simp [Element.new])
    exact hv ▸ ht.script space name a ha hn

namespace Draft.IsPortable

theorem start (parented : List ObjectId) : (Draft.start parented).IsPortable l :=
  ⟨fun _ h => absurd h List.not_mem_nil, rfl⟩

theorem push (hd : d.IsPortable l) {x : Attributed} (hx : x.element.IsPortable l)
    (hb : x.bound = []) {u : Value} {parented : List ObjectId}
    (h : (d.push x u parented).runIn w = (.ok d', v)) : d'.IsPortable l := by
  simp only [Draft.push, pendingBindings, hb, List.isEmpty_nil, if_true, pure_bind] at h
  cases h
  refine ⟨List.forall_mem_cons.2 ⟨⟨hx.attached, hx.script⟩, hd.stack⟩, ?_⟩
  rw [hd.bindings]
  rfl

theorem setValue (hd : d.IsPortable l) (u : Value) : (d.setValue u).IsPortable l := by
  unfold Draft.setValue
  split
  · exact hd
  · next e outer hs =>
    have stack := hd.stack
    rw [hs, List.forall_mem_cons] at stack
    exact ⟨List.forall_mem_cons.2 ⟨⟨stack.1.attached, stack.1.script⟩, stack.2⟩, hd.bindings⟩

theorem closeAs (hd : d.IsPortable l) {e : Element}
    (h : (closeAs l c d e).runIn w = (.ok d', v)) : d'.IsPortable l := by
  cases hk : e.kind.isComposed with
  | false =>
    rw [closeAs_of_not_isComposed hk h]
    exact hd
  | true =>
    rw [closeAs_of_isComposed hk] at h
    simp only [Op.bind_runIn_eq_ok] at h
    obtain ⟨_, _, -, d₁, _, hc, _, _, -, h⟩ := h
    cases h
    obtain ⟨-, rfl, -⟩ | ⟨r, parented, -, -, hr⟩ := compose_eq_ok hc
    · exact hd
    · have taken := Receiver.take_eq_ok hr
      have adopted : ({ d with parented := parented } : Draft).IsPortable l := ⟨hd.stack, hd.bindings⟩
      cases r with
      | element =>
        rw [taken]
        exact adopted.setValue _
      | object o =>
        rw [taken]
        exact adopted

/-- While there is no other markup, what is under construction stays portable. -/
theorem step (hd : d.IsPortable l) {x : Xml.Located}
    (hx : ∀ tag, x.event = .start tag → tag.IsPortable l)
    (h : (d.step l c nested x).runIn w = (.ok d', v)) : d'.IsPortable l := by
  unfold Draft.step at h
  split at h
  · rw [Draft.addInstruction_eq_ok h]
    exact ⟨hd.stack, hd.bindings⟩
  · next tag he =>
    have settled : (d.settleLanguage l).IsPortable l := ⟨hd.stack, hd.bindings⟩
    obtain ⟨y, u, ⟨_, _, _, _, _, hs, -, hp⟩ | ⟨_, hs, hp⟩⟩ := Draft.openElement_eq_ok h
    all_goals
      obtain ⟨hy, hb⟩ := startElement_portable hs (hx tag he)
      exact settled.push hy hb hp
  · obtain ⟨e, outer, d₁, u, hs, hc, -, rfl⟩ := Draft.closeElement_eq_ok h
    have stack := hd.stack
    rw [hs, List.forall_mem_cons] at stack
    have popped : ({ d with stack := outer } : Draft).IsPortable l := ⟨stack.2, hd.bindings⟩
    have closed := popped.closeAs hc
    split
    · exact ⟨closed.stack, closed.bindings⟩
    · exact closed
  · obtain rfl | ⟨e, outer, v, hs, -, rfl⟩ := Draft.addText_eq_ok h
    · exact hd
    · have stack := hd.stack
      rw [hs, List.forall_mem_cons] at stack
      exact ⟨List.forall_mem_cons.2 ⟨⟨stack.1.attached, stack.1.script⟩, stack.2⟩, hd.bindings⟩

end Draft.IsPortable

end Bxml
