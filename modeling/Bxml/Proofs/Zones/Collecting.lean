import Bxml.Proofs.Load.Handing
import Bxml.Proofs.Zones.Containers

/-!
# What containers collect

While the content of a container is loaded, the elements that are open inside it belong to the zone
inside it, except that the outermost one may stand for the list as a property.  An event that hands a
value to the container or to such a property appends the value to the list, and no other event changes
the list unless it sets an item through its index.

* `Inside` says what is known of the elements that are open inside the container, and `Collects`
  what holds between two events: it is the invariant of the run.
* `added?` is what an event puts into the list, read off the event and the open elements alone;
  `appends` excludes that items are set through an index.
* `step` is the result: after an event the list has what it had, and then what the event adds.
-/

namespace Bxml

/-- The open elements inside the `n` outermost ones. -/
def Draft.above (n : Nat) (d : Draft) : List Element := d.stack.take (d.stack.length - n)

theorem Draft.length_above (n : Nat) (d : Draft) : (d.above n).length = d.stack.length - n := by
  unfold above
  rw [List.length_take, Nat.min_eq_left (Nat.sub_le _ _)]

theorem Draft.above_eq {d : Draft} {inner outer : List Element} (h : d.stack = inner ++ outer) :
    d.above outer.length = inner := by
  unfold above
  rw [h, List.length_append, Nat.add_sub_cancel, List.take_left]

namespace Container

variable (C : Container)

/-- Whether an element stands for the list, as a property that cannot be written. -/
def names (e : Element) : Bool := e.kind = .readOnly ∧ e.value = .object C.list

/-- Whether what is handed to the innermost of the elements that are open inside the object is put into
the list. -/
def isDirect : List Element → Bool
  | [] => true
  | [e] => C.names e
  | _ => false

/-- What an event inside the object puts into the list: a text that is not blank, or the value of a
closed instance, include or reference. -/
def added? (inner : List Element) : Xml.Event → Option Value
  | .characters text => if inner.isEmpty && !Text.isAllBlank text then some (.string text) else none
  | .close => inner.head?.bind fun e =>
    if e.kind.isComposed && C.isDirect inner.tail then some e.value else none
  | _ => none

/-- Whether no item of the list is set through its index, by an attribute of an element that stands for
the list or by an element in it. -/
def appends : List Element → Bool
  | [e] => !C.names e || e.attributes.isEmpty
  | [e, q] => !C.names q || e.kind ≠ .writable
  | _ => true

/-- The elements that are open inside the object: all belong to its zone, except that the outermost one
may stand for the list. -/
inductive Inside : List Element → Prop
  | nil : Inside []
  | named {e : Element} : C.names e = true → e.id = none → Inside [e]
  | cons {e : Element} {inner : List Element} : (∀ items, e.IsIn (C.inside items)) → Inside inner →
      Inside (e :: inner)

/-- Whether an element stands for the object. -/
structure IsElement (e : Element) : Prop where
  kind : e.kind = .instanceOf
  value : e.value = .object C.object

/-- Whether a document is inside some open elements, and the list of the object has certain items. -/
structure Collects (outer : List Element) (items : List Value) (d : Draft) (w : World) : Prop where
  holds : C.Holds items w
  stack : ∃ inner, d.stack = inner ++ outer ∧ C.Inside inner

variable {C} {items : List Value} {w w' : World} {d d' : Draft} {e : Element} {outer : List Element}
  {l : Loader} {c : DocumentContext} {o : ObjectId}

theorem names_eq_true : C.names e = true ↔ e.kind = .readOnly ∧ e.value = .object C.list := by
  unfold names
  exact decide_eq_true_iff

/-- Whatever is known of an element in the zone inside an object does not depend on the items. -/
theorem isIn_inside {items : List Value} (h : e.IsIn (C.inside items)) (items' : List Value) :
    e.IsIn (C.inside items') := ⟨h.value, h.attributes⟩

/-! ## Values that are handed over -/

/-- What is added to the object or to its list is the last item of the list. -/
theorem Holds.addChild_eq (h : C.Holds items w) (ho : C.hidden o) (k : Held) (v : Value)
    (at_ : Location) : (addChild l k o v at_).runIn w = (.ok (), w.append C.list v) := by
  have list : (w.object C.list).sequence? = some items := by
    unfold Object.sequence?
    rw [h.list]
  rcases ho with rfl | rfl
  · exact addChild_of_listed h.object.defaultProperty h.object.getProperty_default
      (by rw [list]; rfl)
  · have plain : (w.object C.list).defaultProperty = none := by
      unfold Object.defaultProperty
      rw [h.list]
    unfold addChild
    rw [Op.bind_runIn_of_ok (Op.read_runIn _ _), plain]
    dsimp only
    rw [list]
    rfl

/-- The value of a closed element goes to the list if the element around it holds the object or the
list. -/
theorem Holds.compose_into (h : C.Holds items w) {p : Element} {rest : List Element}
    (hs : d.stack = p :: rest) (hp : p.kind = .instanceOf ∨ p.kind = .readOnly)
    (hv : p.value = .object o) (ho : C.hidden o)
    (hr : (compose l c d e).runIn w = (.ok d', w')) :
    d'.stack = d.stack ∧ w' = w.append C.list e.value := by
  have receiver : receiver? d.stack e.location = .ok (some (.object o)) := by
    unfold receiver?
    rw [hs]
    dsimp only
    rcases hp with hp | hp <;> rw [hp, hv] <;> rfl
  rw [compose_of_receiver receiver, Op.bind_runIn_eq_ok] at hr
  obtain ⟨parented, u, ha, hr⟩ := hr
  obtain ⟨rfl, -, -⟩ := adopt_eq_ok.1 ha
  unfold Receiver.take at hr
  dsimp only at hr
  rw [Op.bind_runIn_of_ok (h.addChild_eq ho _ _ _)] at hr
  cases hr
  exact ⟨rfl, rfl⟩

variable (hl : C.IsRespected l)

include hl

/-- A closed instance, include or reference that is handed to the object or its list is the last item
of the list. -/
theorem Holds.closeAs_into (h : C.Holds items w) (hc : ∀ items, c.IsIn (C.inside items))
    (he : ∀ items, e.IsIn (C.inside items)) (hk : e.kind.isComposed = true)
    {p : Element} {rest : List Element} (hs : d.stack = p :: rest)
    (hp : p.kind = .instanceOf ∨ p.kind = .readOnly) (hv : p.value = .object o) (ho : C.hidden o)
    (hr : (closeAs l c d e).runIn w = (.ok d', w')) :
    d'.stack = d.stack ∧ C.Holds (items ++ [e.value]) w' := by
  have object (items : List Value) (o : ObjectId) (ho : e.value.object? = some o) :
      (C.inside items).object o := (isSealed_inside C items).object (Zone.value_of_object? (he items).value ho)
  rw [closeAs_of_isComposed hk] at hr
  simp only [Op.bind_runIn_eq_ok] at hr
  obtain ⟨_, u, ha, d₁, v, hcompose, _, _, hattach, hr⟩ := hr
  cases hr
  have set : C.Holds items u :=
    ((hl.inside items).applyAttributes _ (object items) (he items).attributes).world h ha
  obtain ⟨stack, rfl⟩ := set.compose_into hs hp hv ho hcompose
  refine ⟨stack, ?_⟩
  exact ((hl.inside (items ++ [e.value])).applyAttachedAttributes (hc _) _ _ (object _)).world
    (set.append_list e.value) hattach

/-- An element that ends in one that stands for the list and is not handed to it leaves the list alone,
unless it sets an item. -/
theorem Holds.closeAs_beside (h : C.Holds items w) (he : e.IsIn (C.inside items))
    (hk : e.kind.isComposed = false) (hw : e.kind ≠ .writable) {q : Element} {rest : List Element}
    (hs : d.stack = q :: rest) (hq : q.value = .object C.list)
    (hr : (closeAs l c d e).runIn w = (.ok d', w')) : C.Holds items w' := by
  have owner : owner? d.stack = some C.list := by
    unfold owner?
    rw [hs]
    exact Value.object?_eq_some.2 hq
  have object (o : ObjectId) (ho : e.value.object? = some o) : (C.inside items).object o :=
    (isSealed_inside C items).object (Zone.value_of_object? he.value ho)
  unfold closeAs at hr
  cases hkind : e.kind with
  | instanceOf | inclusion | reference =>
    rw [hkind] at hk
    cases hk
  | writable => exact absurd hkind hw
  | readOnly =>
    simp only [hkind, Op.bind_runIn_eq_ok] at hr
    obtain ⟨_, u, ha, hr⟩ := hr
    cases hr
    exact ((hl.inside items).applyAttributes _ object he.attributes).world h ha
  | attached =>
    simp only [hkind, applyAttachedElement, owner, Op.bind_runIn_eq_ok] at hr
    obtain ⟨_, u, ⟨p, _, hp, ⟨type, property⟩, _, hs, ha⟩, hr⟩ := hr
    cases hr
    cases hp
    obtain ⟨-, rfl⟩ := orFail_runIn_eq_ok hs
    have kept := hl.attach (d.held c e.heldValues) type property he.value h
    rwa [Op.mapError_runIn_eq_ok.1 ha] at kept
  | listeners =>
    simp only [hkind, installAdapter, hs, Op.bind_runIn_eq_ok] at hr
    obtain ⟨_, _, ⟨_, _, hp, p, _, ho, x, _, hx, _, _, hlist, -⟩, -⟩ := hr
    cases hp
    unfold objectOr at ho
    rw [hq] at ho
    cases ho
    cases hx
    have none : (w.object C.list).listeners? e.name = none := by
      unfold Object.listeners?
      rw [h.list]
    rw [none] at hlist
    cases hlist
  | script =>
    simp only [hkind, Op.bind_runIn_eq_ok] at hr
    obtain ⟨_, u, ha, hr⟩ := hr
    cases hr
    exact ((hl.inside items).runScript c _ _ e).world h ha
  | definition =>
    simp only [hkind] at hr
    cases hr
    exact h

omit hl

/-! ## Starts -/

/-- What a property of an object stands for is decided by what can be read from the object. -/
theorem stays_classifyProperty_of (hv : e.value = .object o) {name : String} {at_ : Location}
    {found : Classified → Prop} (null : ∀ f, f.value = .null → found f)
    (read : ∀ w, C.Holds items w → ∀ v, (w.object o).propertyKind name = some .readOnly →
      (w.object o).getProperty name = .ok v → found ⟨.readOnly, name, v⟩) :
    (classifyProperty (e :: outer) name at_).StaysIn (C.inside items) found := by
  unfold classifyProperty
  refine .bind (P := fun p => p = e) (stays_orFail _ _ fun p hp => (Option.some.inj hp).symm) ?_
  rintro _ rfl
  refine .bind (P := fun p => p = o) (stays_objectOr _ _ fun p hp => ?_) ?_
  · rw [hv] at hp
    exact (Option.some.inj hp).symm
  rintro _ rfl
  refine .bind (P := fun x : Object => ∀ v, x.propertyKind name = some .readOnly →
    x.getProperty name = .ok v → found ⟨.readOnly, name, v⟩) (.read read) fun x hx => ?_
  refine .ite (fun _ => .pure (null _ rfl)) fun _ => ?_
  split
  · exact stays_failAt _ _
  · exact .pure (null _ rfl)
  · next hk =>
    refine .bind (.mapError (.ofExcept fun v => hx v hk) _) fun v hv => ?_
    exact .bind (stays_require _ _ _) fun _ _ => .pure hv
  · exact .pure (null _ rfl)

/-- A property of the object stands for the list or for something in the zone inside the object. -/
theorem stays_classifyProperty_object (hv : e.value = .object C.object) (name : String)
    (at_ : Location) :
    (classifyProperty (e :: outer) name at_).StaysIn (C.inside items) fun f =>
      f.value.Avoids C.hidden ∨ f.kind = .readOnly ∧ f.value = .object C.list := by
  refine stays_classifyProperty_of hv (fun f hf => .inl ?_) fun w hw v _ hp => ?_
  · rw [hf]
    exact Value.avoids_of_object? rfl
  · by_cases hlist : v = .object C.list
    · exact .inr ⟨rfl, hlist⟩
    · refine .inl ?_
      rintro o rfl (rfl | rfl)
      · exact hw.object.ne_object hp rfl
      · exact hlist rfl

/-- A property of the list stands for no object. -/
theorem stays_classifyProperty_list (hv : e.value = .object C.list) (name : String)
    (at_ : Location) :
    (classifyProperty (e :: outer) name at_).StaysIn (C.inside items) fun f =>
      f.value.Avoids C.hidden := by
  refine stays_classifyProperty_of hv (fun f hf => ?_) fun w hw v hk hp => ?_
  · rw [hf]
    exact Value.avoids_of_object? rfl
  · unfold Object.propertyKind at hk
    unfold Object.getProperty at hp
    rw [hw.list] at hk hp
    dsimp only at hk hp
    split at hk
    · next length =>
      rw [if_pos length] at hp
      cases hp
      exact Value.avoids_of_object? rfl
    · obtain ⟨_, -, hk⟩ := Option.map_eq_some_iff.1 hk
      cases hk

/-! ## Entries -/

theorem added?_of_blank (inner : List Element) {text : String} (ht : Text.isAllBlank text = true) :
    C.added? inner (.characters text) = none := by
  simp [added?, ht]

theorem added?_of_text {text : String} (ht : Text.isAllBlank text = false) :
    C.added? [] (.characters text) = some (.string text) := by
  simp [added?, ht]

theorem added?_of_text_below (e : Element) (inner : List Element) (text : String) :
    C.added? (e :: inner) (.characters text) = none := rfl

theorem added?_of_close (e : Element) (inner : List Element) :
    C.added? (e :: inner) .close =
      if e.kind.isComposed && C.isDirect inner then some e.value else none := rfl

theorem isEmpty_of_appends (hq : C.appends [e] = true) (he : C.names e = true) :
    e.attributes.isEmpty = true := by
  simpa [appends, he] using hq

theorem not_writable_of_appends {q : Element} (hq : C.appends [e, q] = true)
    (hn : C.names q = true) : e.kind ≠ .writable := by
  simpa [appends, hn] using hq

theorem not_names (he : e.value.Avoids C.hidden) : C.names e = false := by
  refine Bool.eq_false_iff.2 fun h => ?_
  exact he _ (names_eq_true.1 h).2 hidden_list

theorem not_isDirect (he : e.value.Avoids C.hidden) (inner : List Element) :
    C.isDirect (e :: inner) = false := by
  cases inner with
  | nil => exact not_names he
  | cons _ _ => rfl

/-! ## Events -/

/-- The elements inside the object still belong to its zone when the innermost of them is given
something that does. -/
theorem Inside.refill {inner stack : List Element} (he : ∀ items, e.IsIn (C.inside items))
    (h : C.Inside inner) (hr : Refills (C.inside items) (e :: inner ++ outer) stack) :
    ∃ inner', stack = inner' ++ outer ∧ C.Inside inner' := by
  cases hr with
  | same => exact ⟨e :: inner, rfl, .cons he h⟩
  | given text hs hv =>
    obtain ⟨rfl, rfl⟩ := List.cons.inj hs
    exact ⟨_ :: inner, rfl, .cons (fun items => ⟨hv, (he items).attributes⟩) h⟩

namespace Collects

variable {x : Element} {nested : Option NestedLoad} {inner : List Element}

/-- An element that starts belongs to the zone inside the object, or stands for the list. -/
theorem of_opens (h : C.Holds items w') (hs : d.stack = inner ++ x :: outer) (hin : C.Inside inner)
    {found : Classified → Prop} {bindings : List PendingBinding}
    (hd : d.Opens (C.inside items) found e bindings d')
    (hf : ∀ f, found f → f.value.Avoids C.hidden ∨
      inner = [] ∧ f.kind = .readOnly ∧ f.value = .object C.list) :
    C.Collects (x :: outer) items d' w' := by
  refine ⟨h, e :: inner, by rw [hd.stack, hs, List.cons_append], ?_⟩
  have within (hv : e.value.Avoids C.hidden) : C.Inside (e :: inner) :=
    .cons (isIn_inside ⟨hv, hd.attributes⟩) hin
  obtain ⟨f, hfound, kind, value | hv⟩ := hd.found
  · rcases hf f hfound with hv | ⟨rfl, hk, hv⟩
    · exact within (value ▸ hv)
    · refine .named (names_eq_true.2 ⟨kind.trans hk, value.trans hv⟩) ?_
      -- a property element takes no id
      cases hid : e.id with
      | none => rfl
      | some id =>
        have accepts := hd.id (by rw [hid]; rfl)
        rw [kind, hk] at accepts
        cases accepts
  · exact within hv

variable (hl : C.IsRespected l) (hc : ∀ items, c.IsIn (C.inside items)) (hx : C.IsElement x)

include hl hc

theorem openElement (hx : C.IsElement x) (hn : ∀ n, nested = some n → ∀ items, NestedLoad.StaysIn (C.inside items) n)
    (h : C.Collects (x :: outer) items d w) {tag : Xml.StartTag} {at_ : Location}
    (hr : (d.openElement l c nested tag at_).runIn w = (.ok d', w')) :
    C.Collects (x :: outer) items d' w' := by
  obtain ⟨holds, inner, hs, hin⟩ := h
  have opened {found : Classified → Prop}
      (hf : (classify l d.stack tag at_).StaysIn (C.inside items) found)
      (hv : ∀ f, found f → f.value.Avoids C.hidden ∨
        inner = [] ∧ f.kind = .readOnly ∧ f.value = .object C.list) :
      C.Collects (x :: outer) items d' w' := by
    have stays := Loader.StaysIn.openElement (hc items) (fun n h => hn n h items) hf
    obtain ⟨e, bindings, hd⟩ := stays.of_ok holds hr
    exact of_opens (stays.world holds hr) hs hin hd hv
  rw [hs] at opened
  have inside := hl.inside items
  cases hin with
  | nil =>
    refine opened (inside.classify_of (fun _ => .inl)
      (fun name => stays_classifyProperty_object hx.value name _) tag) fun f hf => ?_
    exact hf.imp_right fun hf => ⟨rfl, hf⟩
  | named hq =>
    refine opened (inside.classify_of (fun _ => id)
      (fun name => stays_classifyProperty_list (names_eq_true.1 hq).2 name _) tag) fun f hf => .inl hf
  | cons he hin =>
    refine opened (inside.classify (isSealed_inside C items) ?_ tag _) fun f hf => .inl hf
    rintro _ ⟨⟩
    exact (he items).value

omit hc in
theorem addText (hx : C.IsElement x) (holds : C.Holds items w) (hs : d.stack = inner ++ x :: outer)
    (hin : C.Inside inner) {text : String} {at_ : Location}
    (hr : (d.addText l c text at_).runIn w = (.ok d', w')) :
    C.Collects (x :: outer) (items ++ (C.added? inner (.characters text)).toList) d' w' := by
  cases ht : Text.isAllBlank text with
  | true =>
    unfold Draft.addText at hr
    rw [if_pos ht] at hr
    cases hr
    rw [added?_of_blank inner ht, Option.toList_none, List.append_nil]
    exact ⟨holds, inner, hs, hin⟩
  | false =>
    cases hin with
    | nil =>
      unfold Draft.addText at hr
      rw [if_neg (Bool.eq_false_iff.1 ht), hs] at hr
      simp only [List.nil_append, hx.kind, hx.value, Op.bind_runIn_eq_ok] at hr
      obtain ⟨o, _, ho, y, _, hy, _, _, hreq, _, _, hadd, hr⟩ := hr
      cases ho
      cases hy
      obtain ⟨-, rfl⟩ := require_eq_ok.1 hreq
      rw [holds.addChild_eq hidden_object] at hadd
      cases hadd
      cases hr
      rw [added?_of_text ht]
      exact ⟨holds.append_list (.string text), [], hs, .nil⟩
    | @named q hq hid =>
      -- text is not allowed in an element that stands for the list
      unfold Draft.addText at hr
      rw [if_neg (Bool.eq_false_iff.1 ht), hs] at hr
      simp only [List.cons_append, (names_eq_true.1 hq).1] at hr
      cases hr
    | @cons e inner he hin =>
      have stays := (hl.inside items).addText (isSealed_inside C items) c (d := d)
        (by
          rw [hs]
          rintro _ ⟨⟩
          exact (he items).value) text at_
      have refilled := (stays.of_ok holds hr).stack
      rw [hs] at refilled
      obtain ⟨inner', hs', hin'⟩ := hin.refill he refilled
      rw [added?_of_text_below, Option.toList_none, List.append_nil]
      exact ⟨stays.world holds hr, inner', hs', hin'⟩

/-- What the end of an element inside the object puts into the list, apart from its id. -/
theorem closeAs (hx : C.IsElement x) (holds : C.Holds items w) (hs : d.stack = inner ++ x :: outer)
    (hin : C.Inside inner) (he : ∀ items, e.IsIn (C.inside items))
    (hw : ∀ q, inner = [q] → C.names q = true → e.kind ≠ .writable)
    (hr : (closeAs l c d e).runIn w = (.ok d', w')) :
    C.Collects (x :: outer) (items ++ (C.added? (e :: inner) .close).toList) d' w' := by
  have value (o : ObjectId) (ho : e.value.object? = some o) : (C.inside items).object o :=
    (isSealed_inside C items).object (Zone.value_of_object? (he items).value ho)
  rw [added?_of_close]
  cases hk : e.kind.isComposed with
  | true =>
    rw [Bool.true_and]
    cases hin with
    | nil =>
      obtain ⟨stack, holds⟩ :=
        holds.closeAs_into hl hc he hk hs (.inl hx.kind) hx.value hidden_object hr
      exact ⟨holds, [], stack.trans hs, .nil⟩
    | @named q hq hid =>
      obtain ⟨stack, holds⟩ := holds.closeAs_into hl hc he hk hs (.inr (names_eq_true.1 hq).1)
        (names_eq_true.1 hq).2 hidden_list hr
      rw [show C.isDirect [q] = true from hq, if_pos rfl]
      exact ⟨holds, [q], stack.trans hs, .named hq hid⟩
    | @cons f inner hf hin =>
      rw [not_isDirect (hf items).value, if_neg Bool.false_ne_true, Option.toList_none,
        List.append_nil]
      have stays := (hl.inside items).closeAs (isSealed_inside C items) (hc items) (he items) (d := d)
        (by
          rw [hs]
          rintro _ ⟨⟩
          exact (hf items).value)
      have refilled := (stays.of_ok holds hr).stack
      rw [hs] at refilled
      obtain ⟨inner', hs', hin'⟩ := hin.refill hf refilled
      exact ⟨stays.world holds hr, inner', hs', hin'⟩
  | false =>
    rw [Bool.false_and, if_neg Bool.false_ne_true, Option.toList_none, List.append_nil]
    obtain rfl := closeAs_of_not_isComposed hk hr
    refine ⟨?_, inner, hs, hin⟩
    cases hin with
    | nil =>
      refine ((hl.inside items).closeAs_apart (c := c) (d := d') hk (he items) value ?_).world holds hr
      rw [hs]
      rintro _ ⟨⟩ o ho
      rw [hx.value] at ho
      cases ho
      exact holds.object_ne_list
    | @named q hq hid =>
      exact holds.closeAs_beside hl (he items) hk (hw q rfl hq) hs (names_eq_true.1 hq).2 hr
    | @cons f inner hf hin =>
      refine ((hl.inside items).closeAs_apart (c := c) (d := d') hk (he items) value ?_).world holds hr
      rw [hs]
      rintro _ ⟨⟩ o ho
      exact (isSealed_inside C items).object (Zone.value_of_object? (hf items).value ho)

/-- The end of an element inside the object. -/
theorem closeElement (hx : C.IsElement x) (holds : C.Holds items w)
    (hs : d.stack = inner ++ x :: outer) (hin : C.Inside inner) (hne : inner ≠ [])
    (hq : C.appends inner = true) {at_ : Location}
    (hr : (d.closeElement l c at_).runIn w = (.ok d', w')) :
    C.Collects (x :: outer) (items ++ (C.added? inner .close).toList) d' w' := by
  obtain ⟨e, rest, d₁, u, hs', hclose, hid, rfl⟩ := Draft.closeElement_eq_ok hr
  have stack : (if d₁.stack.isEmpty then { d₁ with root := some e.value } else d₁).stack = d₁.stack := by
    split <;> rfl
  cases hin with
  | nil => exact absurd rfl hne
  | @named q hn hno =>
    obtain ⟨rfl, rfl⟩ := List.cons.inj (hs.symm.trans hs')
    have kind := (names_eq_true.1 hn).1
    -- without attributes and id its end does nothing
    unfold Bxml.closeAs applyAttributes at hclose
    simp only [kind, isEmpty_of_appends hq hn, if_true, Op.bind_runIn_eq_ok] at hclose
    obtain ⟨_, _, hset, hclose⟩ := hclose
    cases hset
    cases hclose
    unfold registerId at hid
    rw [hno] at hid
    cases hid
    rw [added?_of_close, kind]
    refine ⟨?_, [], stack, .nil⟩
    exact (List.append_nil items).symm ▸ holds
  | @cons f inner he hin =>
    obtain ⟨rfl, rfl⟩ := List.cons.inj (hs.symm.trans hs')
    obtain ⟨holds, inner', hs, hin⟩ := closeAs hl hc hx holds rfl hin he
      (fun q hi hn => not_writable_of_appends (hi ▸ hq) hn) hclose
    refine ⟨?_, inner', stack.trans hs, hin⟩
    refine ((hl.inside _).registerId c _ (he _).value fun o ho => ?_).world holds hid
    exact (isSealed_inside C _).object (Zone.value_of_object? (he _).value ho)

/-- What an event inside the object puts into the list. -/
theorem step (hx : C.IsElement x)
    (hn : ∀ n, nested = some n → ∀ items, NestedLoad.StaysIn (C.inside items) n)
    (h : C.Collects (x :: outer) items d w) {y : Xml.Located}
    (hy : y.event = .close → d.above (x :: outer).length ≠ [])
    (hq : C.appends (d.above (x :: outer).length) = true)
    (hr : (d.step l c nested y).runIn w = (.ok d', w')) :
    C.Collects (x :: outer) (items ++ (C.added? (d.above (x :: outer).length) y.event).toList)
      d' w' := by
  obtain ⟨holds, inner, hs, hin⟩ := h
  rw [Draft.above_eq hs] at hy hq ⊢
  cases he : y.event with
  | instruction target data =>
    rw [Draft.step_of_instruction he] at hr
    rw [show C.added? inner (.instruction target data) = none from rfl, Option.toList_none,
      List.append_nil]
    have stays := Loader.StaysIn.addInstruction (Z := C.inside items) d target data y.location
    refine ⟨stays.world holds hr, inner, ?_, hin⟩
    rw [Draft.addInstruction_eq_ok hr]
    exact hs
  | start tag =>
    rw [Draft.step_of_start he] at hr
    rw [show C.added? inner (.start tag) = none from rfl, Option.toList_none, List.append_nil]
    exact openElement hl hc hx hn ⟨holds, inner, hs, hin⟩ hr
  | characters text =>
    rw [Draft.step_of_characters he] at hr
    exact addText hl hx holds hs hin hr
  | close =>
    rw [Draft.step_of_close he] at hr
    exact closeElement hl hc hx holds hs hin (hy he) hq hr

end Collects

end Container

end Bxml
