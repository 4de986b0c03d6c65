import Bxml.Proofs.Load.Moments

/-!
# What an event does

An event that succeeds changes the draft in one of a few ways.  The lemmas of this file say which,
so that no other proof has to take the operations of a load apart.

Each operation has a lemma named after it that ends in `eq_ok`: from its success follow the
successes of its parts and what it leaves.  Adding a value to an object has an equation for each
case (`addChild_of_listed` and the others), because there a failure matters as well.
-/

namespace Bxml

variable {l : Loader} {c : DocumentContext} {d d' : Draft} {w w' : World}

/-! ## Starts of elements -/

theorem require_eq_ok {at_ : Location} {f : StructureFault} {p : Bool} {u : Unit} :
    (require at_ f p).runIn w = (.ok u, w') ↔ p = true ∧ w' = w := by
  unfold require
  cases p <;> simp [eq_comm]

/-- The bindings of an element are looked up without a change. -/
theorem pendingBindings_world (x : Attributed) (w : World) :
    ((pendingBindings x).runIn w).2 = w := by
  unfold pendingBindings
  dsimp only
  split
  · rfl
  · unfold require objectOr
    split
    · cases x.element.value.object? <;> rfl
    · rfl

theorem Draft.push_world (d : Draft) (x : Attributed) (v : Value) (parented : List ObjectId)
    (w : World) : ((d.push x v parented).runIn w).2 = w := by
  have h := pendingBindings_world { x with element := { x.element with value := v } } w
  unfold Draft.push
  dsimp only
  rw [Op.bind_runIn]
  cases hr : (pendingBindings { x with element := { x.element with value := v } }).runIn w with
  | mk r u =>
    rw [hr] at h
    cases r <;> exact h

/-- An element is put on the stack with its value and perhaps some bindings. -/
theorem Draft.push_eq_ok {x : Attributed} {v : Value} {parented : List ObjectId}
    (h : (d.push x v parented).runIn w = (.ok d', w')) :
    w' = w ∧ ∃ bindings, d' = { d with
      stack := { x.element with value := v } :: d.stack
      bindings := d.bindings ++ bindings
      parented := parented } := by
  have hw := Draft.push_world d x v parented w
  rw [h] at hw
  refine ⟨hw, ?_⟩
  simp only [Draft.push, Op.bind_runIn_eq_ok] at h
  obtain ⟨bindings, u, hb, h⟩ := h
  cases h
  exact ⟨bindings, rfl⟩

/-- An included document is read and loaded. -/
theorem Inclusion.load_eq_ok {i : Inclusion} {n : NestedLoad} {parented parented' : List ObjectId}
    {v : Value} (h : (i.load l n parented).runIn w = (.ok (v, parented'), w')) :
    ∃ source outcome, l.readText i.url i.charset = .ok source ∧
      (n i.context parented source).runIn w = (.ok (outcome, parented'), w') ∧
      outcome.root = v := by
  simp only [Inclusion.load, Op.mapError_runIn_eq_ok, Op.bind_runIn_eq_ok,
    Op.ofExcept_runIn_eq_ok] at h
  obtain ⟨source, _, ⟨hs, rfl⟩, ⟨outcome, p⟩, _, hn, h⟩ := h
  cases h
  exact ⟨source, outcome, hs, hn, rfl⟩

/-- A failure inside an included document is wrapped in its location. -/
theorem Inclusion.load_of_error {i : Inclusion} {n : NestedLoad} {parented : List ObjectId}
    {source : String} {e : LoadError} (hs : l.readText i.url i.charset = .ok source)
    (h : (n i.context parented source).runIn w = (.error e, w')) :
    (i.load l n parented).runIn w = (.error (.included i.url e), w') := by
  unfold Inclusion.load
  refine Op.mapError_runIn_of_error ?_
  rw [Op.bind_runIn_of_ok (Op.ofExcept_runIn_eq_ok.2 ⟨hs, rfl⟩), Op.bind_runIn_of_error h]

/-- The start of an element takes its value from an included document or from itself, and puts the
element on the stack. -/
theorem Draft.openElement_eq_ok {nested : Option NestedLoad} {tag : Xml.StartTag} {at_ : Location}
    (h : (d.openElement l c nested tag at_).runIn w = (.ok d', w')) :
    ∃ x u, (∃ n i v parented z,
        (startElement l c nested (d.settleLanguage l) tag at_).runIn w =
          (.ok (x, .inclusion n i), u) ∧
        (i.load l n d.parented).runIn u = (.ok (v, parented), z) ∧
        ((d.settleLanguage l).push x v parented).runIn z = (.ok d', w')) ∨
      (∃ v, (startElement l c nested (d.settleLanguage l) tag at_).runIn w =
          (.ok (x, .known v), u) ∧
        ((d.settleLanguage l).push x v d.parented).runIn u = (.ok d', w')) := by
  simp only [Draft.openElement, Op.bind_runIn_eq_ok] at h
  obtain ⟨⟨x, origin⟩, u, hs, h⟩ := h
  cases origin with
  | inclusion n i =>
    simp only [Op.bind_runIn_eq_ok] at h
    obtain ⟨⟨v, parented⟩, z, hl, h⟩ := h
    exact ⟨x, u, .inl ⟨n, i, v, parented, z, hs, hl, h⟩⟩
  | known v => exact ⟨x, u, .inr ⟨v, hs, h⟩⟩

namespace Moment

variable {m : Moment} {n : NestedLoad} {i : Inclusion}

theorem included?_eq_some (h : m.included? l = some (n, i, w)) :
    ∃ tag x, m.event.event = .start tag ∧
      (startElement l m.context m.nested (m.draft.settleLanguage l) tag m.event.location).runIn
        m.world = (.ok (x, .inclusion n i), w) := by
  unfold included? at h
  split at h
  · next tag he =>
    split at h
    · next x _ _ _ hs =>
      cases h
      exact ⟨tag, x, he, hs⟩
    · cases h
  · cases h

theorem result_of_start {tag : Xml.StartTag} (he : m.event.event = .start tag) :
    m.result l =
      (m.draft.openElement l m.context m.nested tag m.event.location).runIn m.world := by
  unfold result Draft.step
  rw [he]

/-- An included document that fails makes the event fail. -/
theorem result_of_load_error {e : LoadError} (hi : m.included? l = some (n, i, w))
    (h : (i.load l n m.draft.parented).runIn w = (.error e, w')) :
    m.result l = (.error e, w') := by
  obtain ⟨tag, x, he, hs⟩ := included?_eq_some hi
  rw [result_of_start he]
  unfold Draft.openElement
  dsimp only
  rw [Op.bind_runIn_of_ok hs]
  exact Op.bind_runIn_of_error h

/-- An event that includes a document and succeeds puts an element on the stack whose value is the
root of that document. -/
theorem result_of_included (hi : m.included? l = some (n, i, w))
    (h : m.result l = (.ok d', w')) :
    ∃ tag x source outcome parented bindings, m.event.event = .start tag ∧
      (startElement l m.context m.nested (m.draft.settleLanguage l) tag m.event.location).runIn
        m.world = (.ok (x, .inclusion n i), w) ∧
      l.readText i.url i.charset = .ok source ∧
      (n i.context m.draft.parented source).runIn w = (.ok (outcome, parented), w') ∧
      d' = { m.draft.settleLanguage l with
        stack := { x.element with value := outcome.root } :: m.draft.stack
        bindings := m.draft.bindings ++ bindings
        parented := parented } := by
  obtain ⟨tag, x, he, hs⟩ := included?_eq_some hi
  rw [result_of_start he] at h
  obtain ⟨y, u, ⟨n', i', v, parented, z, hs', hl, hp⟩ | ⟨v, hs', -⟩⟩ := Draft.openElement_eq_ok h
  · rw [hs] at hs'
    cases hs'
    obtain ⟨rfl, bindings, rfl⟩ := Draft.push_eq_ok hp
    obtain ⟨source, outcome, hr, hn, rfl⟩ := Inclusion.load_eq_ok hl
    exact ⟨tag, x, source, outcome, parented, bindings, he, hs, hr, hn, rfl⟩
  · rw [hs] at hs'
    cases hs'

/-- An event that includes a document which cannot be read fails. -/
theorem result_of_unread {e : LoadError} (hi : m.included? l = some (n, i, w))
    (hr : l.readText i.url i.charset = .error e) : m.result l = (.error (.included i.url e), w) := by
  refine result_of_load_error hi ?_
  unfold Inclusion.load
  refine Op.mapError_runIn_of_error ?_
  rw [hr]
  rfl

end Moment

/-! ## Ends of elements -/

theorem closeAs_of_isComposed {e : Element} (h : e.kind.isComposed = true) :
    closeAs l c d e = do
      applyAttributes l (d.held c e.heldValues) e
      let d' ← compose l c d e
      applyAttachedAttributes l c (d'.held c e.heldValues) (d.languageIn l) e
      return d' := by
  unfold closeAs
  cases hk : e.kind <;> simp_all [ElementKind.isComposed]

/-- The end of an element whose value does not go to its parent leaves the draft as it is. -/
theorem closeAs_of_not_isComposed {e : Element} (hc : e.kind.isComposed = false)
    (h : (closeAs l c d e).runIn w = (.ok d', w')) : d' = d := by
  unfold closeAs at h
  cases hk : e.kind <;> simp only [hk, ElementKind.isComposed, reduceCtorEq] at hc h
  case definition =>
    cases h
    rfl
  all_goals
    simp only [Op.bind_runIn_eq_ok] at h
    grind [Op.pure_runIn]

/-- The end of an element takes it off the stack before anything else. -/
theorem Draft.closeElement_eq_ok {at_ : Location}
    (h : (d.closeElement l c at_).runIn w = (.ok d', w')) :
    ∃ e outer d₁ u, d.stack = e :: outer ∧
      (closeAs l c { d with stack := outer } e).runIn w = (.ok d₁, u) ∧
      (registerId l c (d₁.held c e.heldValues) e).runIn u = (.ok (), w') ∧
      d' = if d₁.stack.isEmpty then { d₁ with root := some e.value } else d₁ := by
  unfold Draft.closeElement at h
  split at h
  · cases h
  · next e outer hd =>
    simp only [Op.bind_runIn_eq_ok] at h
    obtain ⟨d₁, u, hc, _, _, hr, h⟩ := h
    cases h
    exact ⟨e, outer, d₁, u, hd, hc, hr, rfl⟩

/-! ## Values added to objects -/

section

variable {h : Held} {o : ObjectId} {v : Value} {at_ : Location}

theorem addChild_of_item (hd : (w.object o).defaultProperty = none)
    (hs : (w.object o).sequence?.isSome = true) :
    (addChild l h o v at_).runIn w = (.ok (), w.append o v) := by
  unfold addChild
  rw [Op.bind_runIn_of_ok (Op.read_runIn _ _), hd]
  dsimp only
  rw [if_pos hs]
  rfl

theorem addChild_of_noContainer (hd : (w.object o).defaultProperty = none)
    (hs : (w.object o).sequence? = none) :
    (addChild l h o v at_).runIn w =
      (.error (.structural (.isNoContainer (w.object o).typeName) at_), w) := by
  unfold addChild
  rw [Op.bind_runIn_of_ok (Op.read_runIn _ _), hd, hs]
  rfl

theorem addChild_of_unreadable {property : String} {e : PropertyError}
    (hd : (w.object o).defaultProperty = some property)
    (hp : (w.object o).getProperty property = .error e) :
    (addChild l h o v at_).runIn w = (.error (.property e), w) := by
  unfold addChild
  rw [Op.bind_runIn_of_ok (Op.read_runIn _ _), hd]
  dsimp only
  rw [hp]
  rfl

theorem addChild_of_listed {property : String} {q : ObjectId}
    (hd : (w.object o).defaultProperty = some property)
    (hp : (w.object o).getProperty property = .ok (.object q))
    (hq : (w.object q).sequence?.isSome = true) :
    (addChild l h o v at_).runIn w = (.ok (), w.append q v) := by
  unfold addChild
  rw [Op.bind_runIn_of_ok (Op.read_runIn _ _), hd]
  dsimp only
  rw [hp, Op.bind_runIn_of_ok (Op.mapError_runIn_eq_ok.2 (Op.ofExcept_runIn_eq_ok.2 ⟨rfl, rfl⟩)),
    Op.bind_runIn_of_ok (Op.read_runIn _ _)]
  simp only [Value.object?, Option.filter, hq, if_true]
  rfl

theorem addChild_of_unlisted {property : String} {a : Value}
    (hd : (w.object o).defaultProperty = some property)
    (hp : (w.object o).getProperty property = .ok a)
    (ha : ∀ q, a = .object q → (w.object q).sequence?.isSome = false) :
    (addChild l h o v at_).runIn w =
      ((l.host.setProperty h o property v).mapError LoadError.property).runIn w := by
  unfold addChild
  rw [Op.bind_runIn_of_ok (Op.read_runIn _ _), hd]
  dsimp only
  rw [hp, Op.bind_runIn_of_ok (Op.mapError_runIn_eq_ok.2 (Op.ofExcept_runIn_eq_ok.2 ⟨rfl, rfl⟩)),
    Op.bind_runIn_of_ok (Op.read_runIn _ _)]
  have unlisted : (a.object?.filter fun q => (w.object q).sequence?.isSome) = none := by
    rw [Option.filter_eq_none_iff]
    intro q hq
    rw [ha q (Value.object?_eq_some.1 hq)]
    exact Bool.false_ne_true
  rw [unlisted]

end

/-! ## Composition -/

/-- What gives a value a parent: it is recorded if it is an object without one. -/
theorem adopt_eq_ok {v : Value} {at_ : Location} {parented parented' : List ObjectId} :
    (adopt v at_ parented).runIn w = (.ok parented', w') ↔
      w' = w ∧ (∀ o, v = .object o → o ∉ parented) ∧
        parented' = v.object?.toList ++ parented := by
  cases v with
  | object o =>
    simp only [adopt, Op.bind_runIn_eq_ok, require_eq_ok, Op.typeName_runIn, Value.object?]
    constructor
    · rintro ⟨_, _, h, _, _, ⟨hp, rfl⟩, k⟩
      cases h
      cases k
      exact ⟨rfl, by simpa using hp, rfl⟩
    · rintro ⟨rfl, hp, rfl⟩
      exact ⟨_, _, rfl, (), _, ⟨by simpa using hp, rfl⟩, rfl⟩
  | _ => simp [adopt, Value.object?, eq_comm, and_comm]

/-- An object that has a parent gets no second one. -/
theorem adopt_of_mem {o : ObjectId} {at_ : Location} {parented : List ObjectId}
    (h : o ∈ parented) :
    (adopt (.object o) at_ parented).runIn w =
      (.error (.structural (.alreadyParented (w.typeName o)) at_), w) := by
  simp only [adopt, Op.bind_runIn, Op.typeName_runIn, require]
  rw [if_neg (by simpa using h), failAt_runIn]

/-- Only a property takes a value as its own. -/
theorem receiver?_eq_element {stack : List Element} {at_ : Location}
    (h : receiver? stack at_ = .ok (some .element)) :
    ∃ e outer, stack = e :: outer ∧ e.kind.takesValue = true := by
  cases stack with
  | nil => cases h
  | cons e outer =>
    refine ⟨e, outer, rfl, ?_⟩
    unfold receiver? at h
    split at h
    · cases h
    · next hs =>
      cases hs
      split at h
      · next hk => exact hk
      · split at h
        · cases h
        · split at h <;> cases h

theorem Receiver.take_eq_ok {h : Held} {v : Value} {at_ : Location} {r : Receiver}
    (hr : (r.take l h d v at_).runIn w = (.ok d', w')) :
    d' = match r with
      | .element => d.setValue v
      | .object _ => d := by
  cases r with
  | element =>
    cases hr
    rfl
  | object o =>
    simp only [Receiver.take, Op.bind_runIn_eq_ok] at hr
    obtain ⟨_, _, -, hr⟩ := hr
    cases hr
    rfl

theorem compose_of_receiver {e : Element} {r : Receiver}
    (h : receiver? d.stack e.location = .ok (some r)) :
    compose l c d e =
      (do
        let parented ← adopt e.value e.location d.parented
        r.take l (d.held c e.heldValues) { d with parented := parented } e.value e.location) := by
  unfold compose
  rw [h]
  rfl

/-- A value that has a receiver is given a parent and handed over; any other stays where it is. -/
theorem compose_eq_ok {e : Element} (h : (compose l c d e).runIn w = (.ok d', w')) :
    (receiver? d.stack e.location = .ok none ∧ d' = d ∧ w' = w) ∨
      ∃ r parented, receiver? d.stack e.location = .ok (some r) ∧
        (adopt e.value e.location d.parented).runIn w = (.ok parented, w) ∧
        (r.take l (d.held c e.heldValues) { d with parented := parented } e.value
          e.location).runIn w = (.ok d', w') := by
  simp only [compose, Op.bind_runIn_eq_ok, Op.ofExcept_runIn_eq_ok] at h
  obtain ⟨r, u, ⟨hr, rfl⟩, h⟩ := h
  cases r with
  | none =>
    cases h
    exact .inl ⟨hr, rfl, rfl⟩
  | some r =>
    simp only [Op.bind_runIn_eq_ok] at h
    obtain ⟨parented, v, ha, h⟩ := h
    obtain rfl := (adopt_eq_ok.1 ha).1
    exact .inr ⟨r, parented, hr, ha, h⟩

@[simp] theorem Draft.parented_setValue (v : Value) : (d.setValue v).parented = d.parented := by
  unfold Draft.setValue
  split <;> rfl

/-! ## Ends of documents -/

theorem Draft.finish_eq_ok {v : Value} (h : (d.finish).runIn w = (.ok v, w')) :
    d.stack = [] ∧ d.root = some v ∧ w' = w := by
  unfold Draft.finish at h
  split at h
  · cases h
  · next hs =>
    split at h
    · next hr =>
      cases h
      exact ⟨hs, hr, rfl⟩
    · cases h

/-- A document that is completed has no open elements, and hands on the record it has. -/
theorem Draft.complete_eq_ok {es : Xml.Events} {o : Outcome} {parented : List ObjectId}
    (h : (d.complete l c es).runIn w = (.ok (o, parented), w')) :
    d.stack = [] ∧ d.root = some o.root ∧ parented = d.parented := by
  simp only [Draft.complete, Op.bind_runIn_eq_ok] at h
  obtain ⟨_, _, -, root, _, hf, _, _, -, _, _, -, _, _, -, _, _, -, h⟩ := h
  obtain ⟨hs, hr, -⟩ := Draft.finish_eq_ok hf
  cases h
  exact ⟨hs, hr, rfl⟩

/-! ## Text and instructions -/

/-- Text changes no more than the value and the text of the innermost open element. -/
theorem Draft.addText_eq_ok {text : String} {at_ : Location}
    (h : (d.addText l c text at_).runIn w = (.ok d', w')) :
    d' = d ∨ ∃ e outer v, d.stack = e :: outer ∧
      (v = e.value ∨ e.kind.takesValue = true ∧ v = .string text) ∧
      d' = { d with stack := { e with value := v, text := some text } :: outer } := by
  unfold Draft.addText at h
  split at h
  · cases h
    exact .inl rfl
  · split at h
    · cases h
    · next e outer hd =>
      split at h
      · simp only [Op.bind_runIn_eq_ok] at h
        obtain ⟨_, _, -, _, _, -, _, _, -, _, _, -, h⟩ := h
        cases h
        exact .inl rfl
      · next hk =>
        cases h
        exact .inr ⟨e, outer, _, hd, .inr ⟨by rw [hk]; rfl, rfl⟩, rfl⟩
      · next hk =>
        cases h
        exact .inr ⟨e, outer, _, hd, .inr ⟨by rw [hk]; rfl, rfl⟩, rfl⟩
      · cases h
        exact .inr ⟨e, outer, _, hd, .inl rfl, rfl⟩
      · cases h
        exact .inr ⟨e, outer, _, hd, .inl rfl, rfl⟩
      · cases h

/-- An instruction changes no more than the script language. -/
theorem Draft.addInstruction_eq_ok {target data : String} {at_ : Location}
    (h : (d.addInstruction target data at_).runIn w = (.ok d', w')) :
    d' = { d with language := d'.language } := by
  unfold Draft.addInstruction at h
  split at h
  · cases h
    rfl
  · split at h
    · cases h
    · cases h
      rfl

end Bxml
