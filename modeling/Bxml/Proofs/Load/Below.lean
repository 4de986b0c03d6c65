import Bxml.Proofs.Load.Splicing

/-!
# Below the innermost element

An event changes only the innermost open element, and the end of one hands its value to no other
than the one around it.  So while the content of an element is taken, everything below it stays, and
a property keeps the value it was given until something else is put into it.

* `step_of_start`, `step_of_close`, `step_of_characters` and `step_of_instruction` say what the four
  kinds of events do, and `stack_of_start` and the like what they do to the open elements.
* `Draft.Shelters` is the invariant for the elements around some content, with one lemma for an
  event and one for a run of events.  `takeEvents_of_isSilent` reads off it that the element is as
  it was.
-/

namespace Bxml

variable {l : Loader} {c : DocumentContext} {nested : Option NestedLoad} {d d' : Draft} {w w' : World}
  {x : Xml.Located}

/-! ## Starts -/

/-- Whether the value of an element goes to its parent. -/
def Xml.StartTag.IsComposed (tag : Xml.StartTag) : Prop :=
  tag.IsInstance ∨
    tag.space = some Xml.controlPrefix ∧ (tag.name = includeTag ∨ tag.name = referenceTag)

theorem controlKind?_eq_composed {name : String} {k : ElementKind} (h : controlKind? name = some k)
    (hk : k.isComposed = true) : name = includeTag ∨ name = referenceTag := by
  unfold controlKind? at h
  split at h
  · next hn => exact .inl hn
  · split at h
    · cases h
      cases hk
    · split at h
      · cases h
        cases hk
      · split at h
        · next hn => exact .inr hn
        · cases h

theorem classifyProperty_isComposed {stack : List Element} {name : String} {at_ : Location}
    {found : Classified} (h : (classifyProperty stack name at_).runIn w = (.ok found, w')) :
    found.kind.isComposed = false := by
  simp only [classifyProperty, Op.bind_runIn_eq_ok] at h
  obtain ⟨parent, _, -, o, _, -, x, _, -, h⟩ := h
  split at h
  · cases h
    rfl
  · split at h
    · cases h
    · cases h
      rfl
    · simp only [classifyReadOnly, Op.bind_runIn_eq_ok] at h
      obtain ⟨_, _, -, _, _, -, h⟩ := h
      cases h
      rfl
    · cases h
      rfl

/-- The tag of an element tells whether its value goes to its parent. -/
theorem isComposed_of_classify {stack : List Element} {tag : Xml.StartTag} {at_ : Location}
    {found : Classified} (h : (classify l stack tag at_).runIn w = (.ok found, w'))
    (hk : found.kind.isComposed = true) : tag.IsComposed := by
  unfold classify at h
  split at h
  · next space =>
    simp only [classifyControl, Op.bind_runIn_eq_ok] at h
    obtain ⟨_, _, -, kind, _, hc, h⟩ := h
    cases h
    cases hn : controlKind? tag.name with
    | none =>
      rw [hn] at hc
      cases hc
    | some k =>
      rw [hn] at hc
      cases hc
      exact .inr ⟨space, controlKind?_eq_composed hn hk⟩
  · next space =>
    split at h
    · simp only [classifyAttached, Op.bind_runIn_eq_ok] at h
      obtain ⟨_, _, -, _, _, -, h⟩ := h
      cases h
      cases hk
    · next attached =>
      split at h
      · next upper => exact .inl ⟨space, attached, upper⟩
      · split at h
        · cases h
        · rw [classifyProperty_isComposed h] at hk
          cases hk

/-- A property that takes a value has none when it starts. -/
theorem null_of_classify {stack : List Element} {tag : Xml.StartTag} {at_ : Location}
    {found : Classified} (h : (classify l stack tag at_).runIn w = (.ok found, w'))
    (hk : found.kind.takesValue = true) : found.value = .null := by
  unfold classify at h
  split at h
  · simp only [classifyControl, Op.bind_runIn_eq_ok] at h
    obtain ⟨_, _, -, _, _, -, h⟩ := h
    cases h
    rfl
  · split at h
    · simp only [classifyAttached, Op.bind_runIn_eq_ok] at h
      obtain ⟨_, _, -, _, _, -, h⟩ := h
      cases h
      rfl
    · split at h
      · simp only [classifyInstance, Op.bind_runIn_eq_ok] at h
        obtain ⟨_, _, -, _, _, -, h⟩ := h
        cases h
        cases hk
      · split at h
        · cases h
        · simp only [classifyProperty, Op.bind_runIn_eq_ok] at h
          obtain ⟨_, _, -, _, _, -, _, _, -, h⟩ := h
          split at h
          · cases h
            rfl
          · split at h
            · cases h
            · cases h
              cases hk
            · simp only [classifyReadOnly, Op.bind_runIn_eq_ok] at h
              obtain ⟨_, _, -, _, _, -, h⟩ := h
              cases h
              cases hk
            · cases h
              rfl

/-- Attributes do not change what an element stands for. -/
theorem Attributed.found_of_foldlM_add {uri : Option String} {as : List Xml.MarkupAttribute}
    {y z : Attributed} (h : (as.foldlM (Attributed.add c uri) y).runIn w = (.ok z, w')) :
    z.element.kind = y.element.kind ∧ z.element.name = y.element.name ∧
      z.element.value = y.element.value ∧ z.element.location = y.element.location := by
  induction as generalizing y w with
  | nil =>
    cases h
    exact ⟨rfl, rfl, rfl, rfl⟩
  | cons a as ih =>
    rw [List.foldlM_cons, Op.bind_runIn_eq_ok] at h
    obtain ⟨u, v, ha, h⟩ := h
    have first : u.element.kind = y.element.kind ∧ u.element.name = y.element.name ∧
        u.element.value = y.element.value ∧ u.element.location = y.element.location := by
      cases Attributed.takes_of_add ha <;> exact ⟨rfl, rfl, rfl, rfl⟩
    obtain ⟨kind, name, value, location⟩ := ih h
    exact ⟨kind.trans first.1, name.trans first.2.1, value.trans first.2.2.1,
      location.trans first.2.2.2⟩

/-- An element starts by being classified; then its attributes are added. -/
theorem startElement_eq_ok {α : Type} {n : Option α} {tag : Xml.StartTag} {at_ : Location}
    {y : Attributed} {origin : Origin α}
    (h : (startElement l c n d tag at_).runIn w = (.ok (y, origin), w')) :
    ∃ found u v, (classify l d.stack tag at_).runIn w = (.ok found, u) ∧
      (tag.attributes.foldlM (Attributed.add c tag.namespaceUri)
        ⟨.new found.kind found.name found.value at_, []⟩).runIn u = (.ok y, v) ∧
      match origin with
      | .inclusion _ _ => found.kind = .inclusion
      | .known a => found.kind = .reference ∧ (resolveReference c y.element).runIn v = (.ok a, w') ∨
          found.kind ≠ .inclusion ∧ found.kind ≠ .reference ∧ a = y.element.value ∧ w' = v := by
  simp only [startElement, Op.bind_runIn_eq_ok] at h
  obtain ⟨found, u, hf, z, v, hz, h⟩ := h
  split at h
  · next hk =>
    simp only [Op.bind_runIn_eq_ok] at h
    obtain ⟨_, _, -, h⟩ := h
    cases h
    exact ⟨found, u, v, hf, hz, hk⟩
  · next hk =>
    simp only [Op.bind_runIn_eq_ok] at h
    obtain ⟨a, _, hr, h⟩ := h
    cases h
    exact ⟨found, u, v, hf, hz, .inl ⟨hk, hr⟩⟩
  · next hi hr =>
    cases h
    exact ⟨found, u, w', hf, hz, .inr ⟨hi, hr, rfl, rfl⟩⟩

/-! ## One event -/

namespace Draft

theorem step_of_start {tag : Xml.StartTag} (hx : x.event = .start tag) :
    d.step l c nested x = d.openElement l c nested tag x.location := by
  unfold step
  rw [hx]

theorem step_of_close (hx : x.event = .close) :
    d.step l c nested x = d.closeElement l c x.location := by
  unfold step
  rw [hx]

theorem step_of_characters {text : String} (hx : x.event = .characters text) :
    d.step l c nested x = d.addText l c text x.location := by
  unfold step
  rw [hx]

theorem step_of_instruction {target data : String} (hx : x.event = .instruction target data) :
    d.step l c nested x = d.addInstruction target data x.location := by
  unfold step
  rw [hx]

/-- A start puts an element on the stack. -/
theorem stack_of_start {tag : Xml.StartTag} (hx : x.event = .start tag)
    (h : (d.step l c nested x).runIn w = (.ok d', w')) :
    ∃ e, d'.stack = e :: d.stack ∧ (e.kind.isComposed = true → tag.IsComposed) := by
  rw [step_of_start hx] at h
  obtain ⟨y, u, ⟨_, _, _, _, _, hs, -, hp⟩ | ⟨_, hs, hp⟩⟩ := openElement_eq_ok h
  all_goals
    obtain ⟨-, bindings, rfl⟩ := push_eq_ok hp
    obtain ⟨found, v, z, hf, hy, -⟩ := startElement_eq_ok hs
    have kind : y.element.kind = found.kind := (Attributed.found_of_foldlM_add hy).1
    refine ⟨_, rfl, fun hk => isComposed_of_classify hf ?_⟩
    rwa [← kind]

/-- A property that takes a value is put on the stack without one. -/
theorem null_of_start {tag : Xml.StartTag} (hx : x.event = .start tag)
    (h : (d.step l c nested x).runIn w = (.ok d', w')) {e : Element}
    (he : d'.stack = e :: d.stack) (hk : e.kind.takesValue = true) : e.value = .null := by
  rw [step_of_start hx] at h
  obtain ⟨y, u, ⟨n, i, a, _, _, hs, -, hp⟩ | ⟨a, hs, hp⟩⟩ := openElement_eq_ok h
  all_goals
    obtain ⟨-, bindings, rfl⟩ := push_eq_ok hp
    obtain ⟨found, v, z, hf, hy, origin⟩ := startElement_eq_ok hs
    obtain ⟨kind, -, value, -⟩ := Attributed.found_of_foldlM_add hy
    obtain rfl : { y.element with value := a } = e := (List.cons.inj he).1
    have takes : found.kind.takesValue = true := by
      rw [← show y.element.kind = found.kind from kind]
      exact hk
  · rw [show found.kind = .inclusion from origin] at takes
    cases takes
  · obtain ⟨reference, -⟩ | ⟨-, -, rfl, -⟩ := origin
    · rw [reference] at takes
      cases takes
    · exact value.trans (null_of_classify hf takes)

/-- The end of an element takes it off the stack, and may give its value to the element around it. -/
theorem stack_of_close (hx : x.event = .close)
    (h : (d.step l c nested x).runIn w = (.ok d', w')) :
    ∃ e outer, d.stack = e :: outer ∧
      (d'.stack = outer ∨ e.kind.isComposed = true ∧ ∃ p rest, outer = p :: rest ∧
        p.kind.takesValue = true ∧ d'.stack = { p with value := e.value } :: rest) := by
  rw [step_of_close hx] at h
  obtain ⟨e, outer, d₁, u, hs, hc, -, hd⟩ := closeElement_eq_ok h
  have stack : d'.stack = d₁.stack := by
    rw [hd]
    split <;> rfl
  refine ⟨e, outer, hs, ?_⟩
  rw [stack]
  cases hk : e.kind.isComposed with
  | false =>
    rw [closeAs_of_not_isComposed hk hc]
    exact .inl rfl
  | true =>
    rw [closeAs_of_isComposed hk] at hc
    simp only [Op.bind_runIn_eq_ok] at hc
    obtain ⟨_, _, -, d₂, _, hc, _, _, -, hc'⟩ := hc
    cases hc'
    obtain ⟨-, rfl, -⟩ | ⟨r, parented, hr, -, ht⟩ := compose_eq_ok hc
    · exact .inl rfl
    · rw [Receiver.take_eq_ok ht]
      cases r with
      | object o => exact .inl rfl
      | element =>
        obtain ⟨p, rest, ho, hp⟩ := receiver?_eq_element hr
        obtain rfl : outer = p :: rest := ho
        exact .inr ⟨rfl, p, rest, rfl, hp, rfl⟩

/-- Text may become the value of the innermost element. -/
theorem stack_of_characters {text : String} (hx : x.event = .characters text)
    (h : (d.step l c nested x).runIn w = (.ok d', w')) :
    d'.stack = d.stack ∨ Text.isAllBlank text = false ∧ ∃ e outer v, d.stack = e :: outer ∧
      d'.stack = { e with value := v, text := some text } :: outer := by
  rw [step_of_characters hx] at h
  cases ht : Text.isAllBlank text with
  | true =>
    unfold addText at h
    rw [if_pos ht] at h
    cases h
    exact .inl rfl
  | false =>
    obtain rfl | ⟨e, outer, v, hs, -, rfl⟩ := addText_eq_ok h
    · exact .inl rfl
    · exact .inr ⟨rfl, e, outer, v, hs, rfl⟩

theorem stack_of_instruction {target data : String} (hx : x.event = .instruction target data)
    (h : (d.step l c nested x).runIn w = (.ok d', w')) : d'.stack = d.stack := by
  rw [step_of_instruction hx] at h
  rw [addInstruction_eq_ok h]

end Draft

/-! ## What stays below -/

/-- Whether nothing is put into the element around some events: directly inside it are blank texts,
instructions and elements whose values do not go to their parent. -/
def Xml.IsSilent (items : List Xml.Located) : Prop :=
  ∀ before x after, items = before ++ x :: after → Xml.levelAfter 0 before = some 0 →
    (∀ text, x.event = .characters text → Text.isAllBlank text = true) ∧
      ∀ tag, x.event = .start tag → ¬ tag.IsComposed

/-- Whether the open elements end with the given ones, with `n` more inside them, and the value of the
outermost of these does not go to its parent. -/
def Draft.Shelters (d : Draft) (base : List Element) (n : Nat) : Prop :=
  ∃ inner, d.stack = inner ++ base ∧ inner.length = n ∧
    ∀ e ∈ inner.getLast?, e.kind.isComposed = false

/-- An event inside an element leaves the element as it is, unless it is put into it. -/
theorem Draft.Shelters.step {base : List Element} {n m : Nat} (hd : d.Shelters base n)
    (hx : x.event.levelAfter n = some m)
    (quiet : n = 0 → (∀ text, x.event = .characters text → Text.isAllBlank text = true) ∧
      ∀ tag, x.event = .start tag → ¬ tag.IsComposed)
    (h : (d.step l c nested x).runIn w = (.ok d', w')) : d'.Shelters base m := by
  obtain ⟨inner, hs, rfl, last⟩ := hd
  cases he : x.event with
  | start tag =>
    rw [he] at hx
    cases hx
    obtain ⟨e, hs', hk⟩ := Draft.stack_of_start he h
    refine ⟨e :: inner, by rw [hs', hs, List.cons_append], rfl, fun f hf => ?_⟩
    cases inner with
    | nil =>
      obtain rfl : e = f := by simpa using hf
      exact Bool.eq_false_iff.2 fun hk' => (quiet rfl).2 tag he (hk hk')
    | cons g inner =>
      rw [List.getLast?_cons_cons] at hf
      exact last f hf
  | close =>
    rw [he] at hx
    obtain ⟨e, outer, hs', hd'⟩ := Draft.stack_of_close he h
    cases inner with
    | nil => cases hx
    | cons f inner =>
      cases hx
      obtain ⟨rfl, rfl⟩ : f = e ∧ inner ++ base = outer := by simpa using hs.symm.trans hs'
      rcases hd' with hd' | ⟨hk, p, rest, ho, -, hd'⟩
      · refine ⟨inner, hd', rfl, fun g hg => last g ?_⟩
        cases inner with
        | nil => cases hg
        | cons _ _ => rwa [List.getLast?_cons_cons]
      · -- a value goes to an element further inside
        cases inner with
        | nil =>
          rw [last f rfl] at hk
          cases hk
        | cons q inner =>
          obtain ⟨rfl, rfl⟩ := List.cons.inj ho
          refine ⟨{ q with value := f.value } :: inner, hd', rfl, fun g hg => ?_⟩
          cases inner with
          | nil =>
            obtain rfl : { q with value := f.value } = g := by simpa using hg
            exact last q rfl
          | cons _ _ =>
            rw [List.getLast?_cons_cons] at hg
            apply last
            rwa [List.getLast?_cons_cons, List.getLast?_cons_cons]
  | instruction target data =>
    rw [he] at hx
    cases hx
    exact ⟨inner, (Draft.stack_of_instruction he h).trans hs, rfl, last⟩
  | characters text =>
    rw [he] at hx
    cases hx
    obtain hd' | ⟨ht, e, outer, v, hs', hd'⟩ := Draft.stack_of_characters he h
    · exact ⟨inner, hd'.trans hs, rfl, last⟩
    · cases inner with
      | nil =>
        rw [(quiet rfl).1 text he] at ht
        cases ht
      | cons f inner =>
        obtain ⟨rfl, rfl⟩ : f = e ∧ inner ++ base = outer := by simpa using hs.symm.trans hs'
        refine ⟨{ f with value := v, text := some text } :: inner, hd', rfl, fun g hg => ?_⟩
        cases inner with
        | nil =>
          obtain rfl : { f with value := v, text := some text } = g := by simpa using hg
          exact last f rfl
        | cons _ _ =>
          rw [List.getLast?_cons_cons] at hg
          apply last
          rwa [List.getLast?_cons_cons]

/-- Events inside an element leave the element as it is if nothing is put into it. -/
theorem Draft.Shelters.takeEvents {base : List Element} {n m : Nat} (hd : d.Shelters base n)
    {items : List Xml.Located} (hm : Xml.levelAfter n items = some m)
    (quiet : ∀ before x after, items = before ++ x :: after → Xml.levelAfter n before = some 0 →
      (∀ text, x.event = .characters text → Text.isAllBlank text = true) ∧
        ∀ tag, x.event = .start tag → ¬ tag.IsComposed)
    (h : (takeEvents l c nested d items).runIn w = (.ok d', w')) : d'.Shelters base m := by
  induction items generalizing d w n with
  | nil =>
    cases hm
    cases h
    exact hd
  | cons x r ih =>
    obtain ⟨j, hj, hm⟩ := Xml.levelAfter_cons_eq_some.1 hm
    obtain ⟨a, v, ha, h⟩ := takeEvents_cons_eq_ok.1 h
    refine ih (hd.step hj (fun hn => quiet [] x r rfl (by rw [hn]; rfl)) ha) hm
      (fun before y after hr hb => ?_) h
    exact quiet (x :: before) y after (by rw [hr, List.cons_append])
      (Xml.levelAfter_cons_eq_some.2 ⟨j, hj, hb⟩)

/-- What is open when some events begin is as it was when they end at the same level and put nothing
into it. -/
theorem takeEvents_of_isSilent {items : List Xml.Located} (hm : Xml.levelAfter 0 items = some 0)
    (quiet : Xml.IsSilent items) (h : (takeEvents l c nested d items).runIn w = (.ok d', w')) :
    d'.stack = d.stack := by
  have sheltered : d.Shelters d.stack 0 := by
    refine ⟨[], rfl, rfl, ?_⟩
    rintro e ⟨⟩
  obtain ⟨inner, hs, hn, -⟩ := sheltered.takeEvents hm quiet h
  rw [hs, List.length_eq_zero_iff.1 hn, List.nil_append]

end Bxml
