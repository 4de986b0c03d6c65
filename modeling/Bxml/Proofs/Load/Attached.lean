import Bxml.Proofs.Load.Calls
import Bxml.Proofs.Load.Holding
import Bxml.Proofs.Load.Trees

/-!
# Attached properties

A property that one type attaches to objects of another can be written as an attribute of an
object's element or as an element inside it.  Both come to one call of the setter, with the same
arguments: the attribute when the element of the object ends, the element when it ends itself.

`attachesOnce_alike` is the result, and `AttachesOnce` of `Load/Calls.lean` what it says of either
way.  For the element, `attachesOnce_of_element` follows its few events.  The attribute is harder,
because what it adds is applied only at the end of the object's element, after content of any kind:

* `Draft.openElement_insert`: one more attached attribute is recorded in its place, and makes no
  other difference to the start of the element;
* `Draft.Encloses`: what is recorded stays while the content is taken;
* `attachesOnce_of_attribute`: at the end, the attributes before it and after it are applied as
  ever.
-/

namespace Bxml

/-! ## Names -/

theorem not_mem_of_isPlainName {p : Char → Bool} {name : String} (h : isPlainName p name = true) :
    pathSeparator ∉ name.toList := by
  simpa using (Bool.and_eq_true_iff.1 h).2

/-- The name of an attached property is divided at its dot. -/
theorem splitAttached?_qualified {owner member : String}
    (ho : isPlainName Text.isUppercase owner = true)
    (hm : isPlainName Text.isLowercase member = true) :
    splitAttached? (qualified owner member) = some (owner, member) := by
  have upper :
      startsWith Text.isUppercase (owner.toList ++ pathSeparator :: member.toList) = true := by
    have hs := startsWith_of_isPlainName ho
    cases h : owner.toList with
    | nil =>
      rw [h] at hs
      cases hs
    | cons c r =>
      rw [h] at hs
      exact hs
  have dotless : member.toList.contains pathSeparator = false := by
    simpa using not_mem_of_isPlainName hm
  unfold splitAttached?
  rw [toList_qualified, takeWhile_bne_append (not_mem_of_isPlainName ho)]
  dsimp only
  rw [List.drop_left]
  dsimp only
  rw [upper, startsWith_of_isPlainName hm, dotless, String.ofList_toList, String.ofList_toList]
  rfl

/-! ## Attached elements -/

section

variable {l : Loader} {c : DocumentContext} {nested : Option NestedLoad} {d d' : Draft}
  {w w' : World}

/-- Only ends of elements call the setter. -/
theorem Draft.step_attaching {x : Xml.Located} (hx : x.event ≠ .close) (f : Attacher) :
    d.step (l.attaching f) c nested x = d.step l c nested x := by
  unfold step
  cases he : x.event with
  | close => exact absurd he hx
  | instruction target data => rfl
  | start tag => rfl
  | characters text => rfl

/-- An event that ends no element comes to the same with every setter. -/
theorem takeEvents_attaching_cons {x : Xml.Located}
    (h : (d.step l c nested x).runIn w = (.ok d', w')) (hx : x.event ≠ .close)
    (r : List Xml.Located) (f : Attacher) :
    (takeEvents (l.attaching f) c nested d (x :: r)).runIn w =
      (takeEvents (l.attaching f) c nested d' r).runIn w' := by
  rw [takeEvents_cons, Moment.result]
  dsimp only
  rw [Draft.step_attaching hx, h]

variable (l c nested w) in
/-- An element with an attached name inside an element with an object stands for a property of
that. -/
theorem Draft.step_start_attached {tag : Xml.StartTag} {owner member : String} {o : ObjectId}
    (space : tag.space ≠ some Xml.controlPrefix)
    (name : splitAttached? tag.name = some (owner, member)) (bare : tag.attributes = [])
    (around : owner? d.stack = some o) (at_ seen : Location) :
    ∃ d', (d.step l c nested ⟨.start tag, at_, seen⟩).runIn w = (.ok d', w) ∧
      d'.stack = .new .attached (qualified (qualifiedType tag.namespaceUri owner) member) .null at_ ::
        d.stack := by
  obtain ⟨parent, hp, ho⟩ := Option.bind_eq_some_iff.1 around
  have classified : (classify l (d.settleLanguage l).stack tag at_).runIn w =
      (.ok ⟨.attached, qualified (qualifiedType tag.namespaceUri owner) member, .null⟩, w) := by
    unfold classify
    rw [if_neg space, name]
    simp only [classifyAttached, Draft.settleLanguage, hp, orFail_some, pure_bind, objectOr, ho]
    rfl
  refine ⟨{ d.settleLanguage l with
    stack := .new .attached (qualified (qualifiedType tag.namespaceUri owner) member) .null at_ ::
      d.stack
    bindings := d.bindings ++ [] }, ?_, rfl⟩
  change (Draft.openElement l c nested d _ at_).runIn w = _
  rw [Draft.openElement, startElement, bind_assoc, Op.bind_runIn_of_ok classified, bare]
  rfl

/-- The end of an attached element calls the setter once. -/
theorem attachesOnce_of_close {e : Element} {outer : List Element} {owner property : String}
    {o : ObjectId} (hs : d.stack = e :: outer) (hk : e.kind = .attached)
    (name : splitQualified? e.name = some (owner, property)) (around : owner? outer = some o) (at_ seen : Location) :
    AttachesOnce (fun f => takeEvents (l.attaching f) c nested d [⟨.close, at_, seen⟩]) w
      ⟨owner, property, o, e.value⟩ := by
  let inner : Draft := { d with stack := outer }
  have call := AttachesOnce.of_call (inner.held c e.heldValues) w ⟨owner, property, o, e.value⟩
  -- nothing else in the end of an element knows the setter
  let rest : Op LoadError Draft := do
    registerId l c (inner.held c e.heldValues) e
    return if outer.isEmpty then { inner with root := some e.value } else inner
  refine ((call.bind fun _ => rest).onError (reportFailure c seen)).after fun f => ?_
  have closed : Draft.closeElement (l.attaching f) c d at_ =
      (f (inner.held c e.heldValues) owner property o e.value).mapError .type >>=
        fun _ => rest := by
    unfold Draft.closeElement
    rw [hs]
    simp only [closeAs, hk, applyAttachedElement, around, name, orFail_some, pure_bind, bind_assoc]
    rfl
  rw [takeEvents_singleton]
  exact congrArg (fun x => (Op.onError x _).runIn w) closed

/-- An attached element with a text calls the setter once, wherever its events stand. -/
theorem attachesOnce_of_element {tag : Xml.StartTag} {owner member s : String} {o : ObjectId}
    (space : tag.space ≠ some Xml.controlPrefix)
    (name : splitAttached? tag.name = some (owner, member)) (bare : tag.attributes = [])
    (text : Text.isAllBlank s = false) (around : owner? d.stack = some o) {items : List Xml.Located}
    (hi : items.map (·.event) = [.start tag, .characters s, .close]) :
    AttachesOnce (fun f => takeEvents (l.attaching f) c nested d items) w
      ⟨qualifiedType tag.namespaceUri owner, member, o, .string s⟩ := by
  obtain ⟨⟨_, at₁, seen₁⟩, _, rfl, rfl, h₁⟩ := List.map_eq_cons_iff.1 hi
  obtain ⟨⟨_, at₂, seen₂⟩, _, rfl, rfl, h₂⟩ := List.map_eq_cons_iff.1 h₁
  obtain ⟨⟨_, at₃, seen₃⟩, _, rfl, rfl, h₃⟩ := List.map_eq_cons_iff.1 h₂
  obtain rfl := List.map_eq_nil_iff.1 h₃
  obtain ⟨d₁, opened, stack⟩ := d.step_start_attached l c nested w space name bare around at₁ seen₁
  let e : Element :=
    { Element.new .attached (qualified (qualifiedType tag.namespaceUri owner) member) .null at₁ with
      value := .string s
      text := some s }
  have filled : (d₁.step l c nested ⟨.characters s, at₂, seen₂⟩).runIn w =
      (.ok { d₁ with stack := e :: d.stack }, w) := Draft.step_characters stack rfl text at₂ seen₂
  have closes : AttachesOnce (fun f => takeEvents (l.attaching f) c nested
      { d₁ with stack := e :: d.stack } [⟨.close, at₃, seen₃⟩]) w
      ⟨qualifiedType tag.namespaceUri owner, member, o, .string s⟩ :=
    attachesOnce_of_close (e := e) rfl rfl
      (splitQualified?_qualified _ (not_mem_of_splitAttached? name)) around at₃ seen₃
  exact closes.after fun f => (takeEvents_attaching_cons opened nofun _ f).trans
    (takeEvents_attaching_cons filled nofun _ f)

/-! ## Attached attributes -/

namespace Attributed

/-- The element with other attached attributes. -/
def withAttached (x : Attributed) (entries : List AttachedAttribute) : Attributed :=
  { x with element := { x.element with attached := entries } }

/-- The element with attributes that were attached to it before. -/
def attachedBefore (x : Attributed) (entries : List AttachedAttribute) : Attributed :=
  x.withAttached (entries ++ x.element.attached)

theorem withAttached_eq (x : Attributed) (entries : List AttachedAttribute) :
    x.withAttached entries = (x.withAttached []).attachedBefore entries :=
  congrArg x.withAttached (List.append_nil entries).symm

variable {uri : Option String} {a : Xml.MarkupAttribute}

theorem addId_attachedBefore (x : Attributed) (entries : List AttachedAttribute) :
    (x.attachedBefore entries).addId c a = (·.attachedBefore entries) <$> x.addId c a := by
  unfold addId
  simp only [map_bind, map_pure]
  rfl

theorem addAttached_attachedBefore (x : Attributed) (entries : List AttachedAttribute)
    (owner member : String) :
    (x.attachedBefore entries).addAttached uri a owner member =
      (·.attachedBefore entries) <$> x.addAttached uri a owner member := by
  unfold addAttached
  simp only [map_bind, map_pure, attachedBefore, withAttached, List.append_assoc]

theorem addResolved_attachedBefore (x : Attributed) (entries : List AttachedAttribute) :
    (x.attachedBefore entries).addResolved c a =
      (·.attachedBefore entries) <$> x.addResolved c a := by
  unfold addResolved
  rw [map_bind]
  refine bind_congr fun value => ?_
  cases value with
  | resolved v => exact (map_pure _ _).symm
  | binding expression => exact (map_pure _ _).symm

/-- What an attribute says does not depend on what was attached to the element before. -/
theorem add_attachedBefore (x : Attributed) (entries : List AttachedAttribute) :
    (x.attachedBefore entries).add c uri a = (·.attachedBefore entries) <$> x.add c uri a := by
  have same : (x.attachedBefore entries).element.kind = x.element.kind := rfl
  unfold add
  dsimp only
  rw [same]
  split
  · exact addId_attachedBefore x entries
  · split
    · rfl
    · split
      · exact addAttached_attachedBefore x entries _ _
      · split
        all_goals first
          | rfl
          | exact addResolved_attachedBefore x entries

theorem foldlM_add_attachedBefore (as : List Xml.MarkupAttribute) (x : Attributed)
    (entries : List AttachedAttribute) :
    as.foldlM (add c uri) (x.attachedBefore entries) =
      (·.attachedBefore entries) <$> as.foldlM (add c uri) x := by
  induction as generalizing x with
  | nil => exact (map_pure _ _).symm
  | cons a as ih =>
    rw [List.foldlM_cons, List.foldlM_cons, add_attachedBefore, map_bind, bind_map_left]
    exact bind_congr fun y => ih y

variable {x y : Attributed}

/-- An attached name is added to what is attached to an instance. -/
theorem add_attached {owner member : String} (hk : x.element.kind = .instanceOf)
    (space : a.space ≠ some Xml.controlPrefix)
    (name : splitAttached? a.name = some (owner, member)) :
    x.add c uri a = pure (x.withAttached
      (x.element.attached ++ [⟨qualifiedType uri owner, owner, member, a.value⟩])) := by
  have free : ¬ x.element.kind.controlAttributes.contains a.name = true := by
    rw [hk]
    exact Bool.false_ne_true
  have accepted : x.element.kind.acceptsAttached = true := by
    rw [hk]
    rfl
  unfold add
  dsimp only
  rw [if_neg space, if_neg free, name]
  dsimp only [addAttached]
  rw [accepted]
  rfl

/-- One more attached name among some attributes is attached in its place, and makes no other
difference. -/
theorem foldlM_add_insert {front back : List Xml.MarkupAttribute} {owner member : String}
    (hk : x.element.kind = .instanceOf) (space : a.space ≠ some Xml.controlPrefix)
    (name : splitAttached? a.name = some (owner, member))
    (h : ((front ++ back).foldlM (add c uri) x).runIn w = (.ok y, w')) :
    ∃ before after, y.element.attached = before ++ after ∧
      ((front ++ a :: back).foldlM (add c uri) x).runIn w =
        (.ok (y.withAttached
          (before ++ ⟨qualifiedType uri owner, owner, member, a.value⟩ :: after)), w') := by
  let entry : AttachedAttribute := ⟨qualifiedType uri owner, owner, member, a.value⟩
  rw [List.foldlM_append, Op.bind_runIn_eq_ok] at h
  obtain ⟨z, u, hz, h⟩ := h
  have kind : z.element.kind = .instanceOf := (found_of_foldlM_add hz).1.trans hk
  -- what follows is read alike with and without the new name before it
  let bare := z.withAttached []
  have parted : z = bare.attachedBefore z.element.attached := z.withAttached_eq _
  have added : z.add c uri a = pure (bare.attachedBefore (z.element.attached ++ [entry])) := by
    rw [add_attached kind space name, withAttached_eq]
  rw [parted, foldlM_add_attachedBefore, Op.map_runIn_eq_ok] at h
  obtain ⟨v, hv, rfl⟩ := h
  refine ⟨z.element.attached, v.element.attached, rfl, ?_⟩
  rw [List.foldlM_append, Op.bind_runIn_of_ok hz, List.foldlM_cons, added, pure_bind,
    foldlM_add_attachedBefore, Op.map_runIn_eq_ok]
  refine ⟨v, hv, ?_⟩
  unfold attachedBefore
  rw [List.append_assoc]
  rfl

end Attributed

/-! ## Starts of objects -/

/-- The document with attributes attached to the innermost element. -/
def Draft.record (d : Draft) (entries : List AttachedAttribute) : Draft :=
  { d with stack := d.stack.modifyHead fun e => { e with attached := entries } }

/-- An element that stands for an object and has the given attached attributes. -/
structure Element.IsHost (o : ObjectId) (entries : List AttachedAttribute) (e : Element) :
    Prop where
  kind : e.kind = .instanceOf
  value : e.value = .object o
  attached : e.attached = entries

theorem owner?_of_isHost {e : Element} {outer : List Element} {o : ObjectId}
    {entries : List AttachedAttribute} (hs : d.stack = e :: outer) (he : e.IsHost o entries) :
    owner? d.stack = some o := by
  rw [hs, owner?, List.head?_cons, Option.bind_some, he.value]
  rfl

theorem Draft.push_withAttached {x : Attributed} {v : Value} {parented : List ObjectId}
    (h : (d.push x v parented).runIn w = (.ok d', w')) (entries : List AttachedAttribute) :
    (d.push (x.withAttached entries) v parented).runIn w = (.ok (d'.record entries), w') := by
  unfold push at h ⊢
  dsimp only at h ⊢
  rw [Op.bind_runIn_eq_ok] at h ⊢
  obtain ⟨bindings, u, hb, h⟩ := h
  cases h
  exact ⟨bindings, _, hb, rfl⟩

/-- An instance starts with a new object, to which the attributes are added. -/
theorem Draft.openElement_of_isInstance {tag : Xml.StartTag} (ht : tag.IsInstance)
    (at_ : Location) :
    d.openElement l c nested tag at_ =
      (do
        let o ← (l.factory.construct (qualifiedType tag.namespaceUri tag.name)).mapError .type
        Op.log .trace s!"Constructed {qualifiedType tag.namespaceUri tag.name}"
        let x ← tag.attributes.foldlM (Attributed.add c tag.namespaceUri)
          ⟨.new .instanceOf tag.name (.object o) at_, []⟩
        (d.settleLanguage l).push x x.element.value d.parented) := by
  rw [openElement, startElement, Twins.classify_of_instance ht, classifyInstance]
  simp only [bind_assoc, pure_bind]
  rfl

/-- One more attached name among the attributes of an instance is recorded in its place. -/
theorem Draft.openElement_insert {tag : Xml.StartTag} (ht : tag.IsInstance)
    {front back : List Xml.MarkupAttribute} {a : Xml.MarkupAttribute} {owner member : String}
    (hfb : tag.attributes = front ++ back) (space : a.space ≠ some Xml.controlPrefix)
    (name : splitAttached? a.name = some (owner, member)) {at_ : Location}
    (h : (d.openElement l c nested tag at_).runIn w = (.ok d', w')) :
    ∃ o e before after, d'.stack = e :: d.stack ∧ e.IsHost o (before ++ after) ∧
      (d.openElement l c nested { tag with attributes := front ++ a :: back } at_).runIn w =
        (.ok (d'.record (before ++
          ⟨qualifiedType tag.namespaceUri owner, owner, member, a.value⟩ :: after)), w') := by
  have ht' : { tag with attributes := front ++ a :: back }.IsInstance :=
    ⟨ht.space, ht.attached, ht.upper⟩
  rw [openElement_of_isInstance ht, hfb] at h
  rw [openElement_of_isInstance ht']
  simp only [Op.bind_runIn_eq_ok] at h ⊢
  obtain ⟨o, u, made, _, u', logged, x, v, hx, hp⟩ := h
  obtain ⟨kind, -, value, -⟩ := Attributed.found_of_foldlM_add hx
  obtain ⟨before, after, attached, inserted⟩ := Attributed.foldlM_add_insert rfl space name hx
  obtain ⟨-, bindings, hd⟩ := push_eq_ok hp
  refine ⟨o, _, before, after, congrArg Draft.stack hd, ⟨kind, value, attached⟩, ?_⟩
  exact ⟨o, u, made, _, u', logged, _, v, inserted, push_withAttached hp _⟩

/-! ## Open elements -/

/-- Whether an element with `P` is open and `n` more elements inside it. -/
def Draft.Encloses (d : Draft) (P : Element → Prop) (n : Nat) : Prop :=
  ∃ inner e outer, d.stack = inner ++ e :: outer ∧ inner.length = n ∧ P e

section

variable {P : Element → Prop} {n m : Nat} (hP : Refillable fun _ => P)

include hP

theorem Draft.Encloses.step (hd : d.Encloses P n) {x : Xml.Located}
    (hx : x.event.levelAfter n = some m) (h : (d.step l c nested x).runIn w = (.ok d', w')) :
    d'.Encloses P m := by
  obtain ⟨inner, e, outer, hs, rfl, he⟩ := hd
  cases hevent : x.event with
  | start tag =>
    rw [hevent] at hx
    cases hx
    obtain ⟨e', hs', -⟩ := Draft.stack_of_start hevent h
    exact ⟨e' :: inner, e, outer, by rw [hs', hs, List.cons_append], rfl, he⟩
  | close =>
    rw [hevent] at hx
    obtain ⟨f, rest, hs', hd'⟩ := Draft.stack_of_close hevent h
    cases inner with
    | nil => cases hx
    | cons g inner =>
      cases hx
      obtain ⟨rfl, rfl⟩ : g = f ∧ inner ++ e :: outer = rest := by simpa using hs.symm.trans hs'
      rcases hd' with hd' | ⟨-, p, rest, ho, hp, hd'⟩
      · exact ⟨inner, e, outer, hd', rfl, he⟩
      · cases inner with
        | nil =>
          obtain ⟨rfl, rfl⟩ := List.cons.inj ho
          exact ⟨[], _, outer, hd', rfl, hP outer e g.value e.text he (.inr hp)⟩
        | cons q inner =>
          obtain ⟨rfl, rfl⟩ := List.cons.inj ho
          exact ⟨_ :: inner, e, outer, hd', rfl, he⟩
  | instruction target data =>
    rw [hevent] at hx
    cases hx
    exact ⟨inner, e, outer, (Draft.stack_of_instruction hevent h).trans hs, rfl, he⟩
  | characters text =>
    rw [hevent] at hx
    cases hx
    rw [Draft.step_of_characters hevent] at h
    obtain rfl | ⟨f, rest, v, hs', hv, rfl⟩ := Draft.addText_eq_ok h
    · exact ⟨inner, e, outer, hs, rfl, he⟩
    · cases inner with
      | nil =>
        obtain ⟨rfl, rfl⟩ : e = f ∧ outer = rest := by simpa using hs.symm.trans hs'
        exact ⟨[], _, outer, rfl, rfl, hP outer e v (some text) he (hv.imp_right And.left)⟩
      | cons g inner =>
        obtain ⟨rfl, rfl⟩ : g = f ∧ inner ++ e :: outer = rest := by simpa using hs.symm.trans hs'
        exact ⟨_ :: inner, e, outer, rfl, rfl, he⟩

/-- The content of an element leaves what does not depend on the text and the value of a
property. -/
theorem Draft.Encloses.takeEvents (hd : d.Encloses P n) {items : List Xml.Located}
    (hm : Xml.levelAfter n items = some m)
    (h : (takeEvents l c nested d items).runIn w = (.ok d', w')) : d'.Encloses P m := by
  induction items generalizing d w n with
  | nil =>
    cases hm
    cases h
    exact hd
  | cons x r ih =>
    obtain ⟨j, hj, hm⟩ := Xml.levelAfter_cons_eq_some.1 hm
    obtain ⟨a, v, ha, h⟩ := takeEvents_cons_eq_ok.1 h
    exact ih (hd.step hP hj ha) hm h

end

/-! ## Ends of objects -/

theorem Element.isHost_refill (o : ObjectId) (entries : List AttachedAttribute) :
    Refillable fun _ => Element.IsHost o entries := by
  rintro _ e v text ⟨kind, value, attached⟩ hv
  rcases hv with rfl | takes
  · exact ⟨kind, value, attached⟩
  · rw [kind] at takes
    cases takes

namespace Draft

/-- What the end of an element does for one of the attributes that are attached to its object. -/
def attachTo (l : Loader) (c : DocumentContext) (language : String) (d : Draft) (e : Element)
    (o : ObjectId) (a : AttachedAttribute) : Op LoadError Unit :=
  applyAttachedAttribute l c (d.held c e.heldValues) language o e.location a

/-- What the end of an element does up to some of the attributes that are attached to its object:
its own attributes are set on the object, which is handed to the element around it. -/
def endUpTo (l : Loader) (c : DocumentContext) (d : Draft) (e : Element) (o : ObjectId)
    (before : List AttachedAttribute) : Op LoadError Draft := do
  applyAttributes l (d.held c e.heldValues) e
  let d' ← compose l c d e
  before.forM (d'.attachTo l c (d.languageIn l) e o)
  return d'

/-- What the end of an element does from some of the attributes on that are attached to its
object. -/
def endFrom (l : Loader) (c : DocumentContext) (language : String) (d : Draft) (e : Element)
    (o : ObjectId) (after : List AttachedAttribute) : Op LoadError Draft := do
  after.forM (d.attachTo l c language e o)
  registerId l c (d.held c e.heldValues) e
  return if d.stack.isEmpty then { d with root := some e.value } else d

theorem closeElement_of_isHost {e : Element} {outer : List Element} {o : ObjectId}
    {before after : List AttachedAttribute} (hs : d.stack = e :: outer)
    (he : e.IsHost o (before ++ after)) (at_ : Location) :
    d.closeElement l c at_ =
      (do
        let d' ← endUpTo l c { d with stack := outer } e o before
        d'.endFrom l c (d.languageIn l) e o after) := by
  have composed : e.kind.isComposed = true := by
    rw [he.kind]
    rfl
  have applied (h : Held) (language : String) :
      applyAttachedAttributes l c h language e =
        (do
          before.forM (applyAttachedAttribute l c h language o e.location)
          after.forM (applyAttachedAttribute l c h language o e.location)) := by
    unfold applyAttachedAttributes
    rw [he.attached, he.value]
    refine Eq.trans ?_ List.forM_append
    cases before ++ after <;> rfl
  unfold closeElement
  rw [hs]
  dsimp only
  rw [closeAs_of_isComposed composed, endUpTo]
  simp only [applied, bind_assoc, pure_bind]
  rfl

end Draft

/-- An attached attribute that stands for a text calls the setter once if the object has no
listeners that it could name an event of. -/
theorem attachesOnce_of_attribute {a : AttachedAttribute} {s : String} {o : ObjectId}
    (hv : AttributeForm.read a.value = .ok (.literal s))
    (unlistened : (w.object o).listeners? (listenersProperty a.owner) = none) (h : Held)
    (language : String) (at_ : Location) :
    AttachesOnce (fun f => applyAttachedAttribute (l.attaching f) c h language o at_ a) w
      ⟨a.ownerType, a.member, o, .string s⟩ := by
  have resolved : (c.resolveAttribute a.value at_).runIn w = (.ok (.resolved (.string s)), w) := by
    unfold DocumentContext.resolveAttribute
    rw [hv]
    rfl
  let traced : Op LoadError Unit := do
    Op.log .trace s!"Attached {a.ownerType}.{a.member} to {← Op.typeName o}"
  have call := AttachesOnce.of_call (h.keep [.string s]) w ⟨a.ownerType, a.member, o, .string s⟩
  refine (call.bind fun _ => traced).after fun f => ?_
  unfold applyAttachedAttribute
  rw [Op.bind_runIn_of_ok (Op.read_runIn _ _), unlistened]
  exact Op.bind_runIn_of_ok resolved

/-- Whether the end of the innermost element makes exactly one call of the setter for one of the
attributes that are attached to its object. There is a step for each of them, and the step for this
one makes exactly one call unless the object has listeners that it could name an event of. -/
def Draft.AttachesAtEnd (l : Loader) (c : DocumentContext) (nested : Option NestedLoad) (d : Draft)
    (a : AttachedAttribute) (call : AttachCall) : Prop :=
  ∃ e outer before after, d.stack = e :: outer ∧ e.value = .object call.object ∧
    e.attached = before ++ a :: after ∧
    (∀ f at_ seen, takeEvents (l.attaching f) c nested d [⟨.close, at_, seen⟩] =
      Op.onError
        (do
          let d' ← endUpTo (l.attaching f) c { d with stack := outer } e call.object before
          d'.attachTo (l.attaching f) c (d.languageIn l) e call.object a
          d'.endFrom (l.attaching f) c (d.languageIn l) e call.object after)
        (reportFailure c seen)) ∧
    ∀ (d' : Draft) (w : World),
      (w.object call.object).listeners? (listenersProperty a.owner) = none →
        AttachesOnce (fun f => d'.attachTo (l.attaching f) c (d.languageIn l) e call.object a) w
          call

theorem Draft.attachesAtEnd_of_isHost {e : Element} {outer : List Element} {o : ObjectId}
    {before after : List AttachedAttribute} {a : AttachedAttribute} {s : String}
    (hs : d.stack = e :: outer) (he : e.IsHost o (before ++ a :: after))
    (hv : AttributeForm.read a.value = .ok (.literal s)) :
    d.AttachesAtEnd l c nested a ⟨a.ownerType, a.member, o, .string s⟩ := by
  refine ⟨e, outer, before, after, hs, he.value, he.attached, fun f at_ seen => ?_,
    fun d' w unlistened => attachesOnce_of_attribute hv unlistened _ _ _⟩
  rw [takeEvents_singleton]
  refine congrArg (Op.onError · _) ((closeElement_of_isHost hs he at_).trans ?_)
  refine bind_congr fun d' => ?_
  unfold endFrom
  rw [List.forM_eq_forM, List.forM_cons, bind_assoc]
  rfl

/-- If nothing else is attached to the object, the end of its element makes no other call. -/
theorem Draft.AttachesAtEnd.attachesOnce {a : AttachedAttribute} {call : AttachCall}
    (h : d.AttachesAtEnd l c nested a call) {e : Element} {outer : List Element}
    (hs : d.stack = e :: outer) (alone : e.attached = [a])
    (reached : (endUpTo l c { d with stack := outer } e call.object []).runIn w = (.ok d', w'))
    (unlistened : (w'.object call.object).listeners? (listenersProperty a.owner) = none)
    (at_ seen : Location) :
    AttachesOnce (fun f => takeEvents (l.attaching f) c nested d [⟨.close, at_, seen⟩]) w call := by
  obtain ⟨e', outer', before, after, hs', -, attached, steps, once⟩ := h
  obtain ⟨rfl, rfl⟩ := List.cons.inj (hs.symm.trans hs')
  obtain ⟨rfl, rfl⟩ : before = [] ∧ after = [] := by
    simpa [List.append_eq_singleton_iff] using attached.symm.trans alone
  have applied := (once d' w' unlistened).bind fun _ =>
    d'.endFrom l c (d.languageIn l) e call.object []
  have ends : AttachesOnce (fun f => do
      let d' ← endUpTo (l.attaching f) c { d with stack := outer } e call.object []
      d'.attachTo (l.attaching f) c (d.languageIn l) e call.object a
      d'.endFrom (l.attaching f) c (d.languageIn l) e call.object []) w call :=
    applied.after fun f => Op.bind_runIn_of_ok reached
  exact (ends.onError (reportFailure c seen)).after fun f =>
    congrArg (Op.runIn · w) (steps f at_ seen)

/-! ## Both forms -/

/-- Whether an element that has started is the innermost one again, after content that loads. -/
def AfterContent (l : Loader) (c : DocumentContext) (nested : Option NestedLoad) (d : Draft)
    (w : World) (d' : Draft) (w' : World) : Prop :=
  ∃ content, Xml.levelAfter 0 content = some 0 ∧
    (takeEvents l c nested d content).runIn w = (.ok d', w')

theorem AfterContent.encloses {P : Element → Prop} (hP : Refillable fun _ => P) {e : Element}
    {outer : List Element} (hs : d.stack = e :: outer) (he : P e)
    (h : AfterContent l c nested d w d' w') : ∃ e' outer', d'.stack = e' :: outer' ∧ P e' := by
  obtain ⟨content, balanced, taken⟩ := h
  have enclosed : d.Encloses P 0 := ⟨[], e, outer, hs, rfl, he⟩
  obtain ⟨inner, e', outer', hs', hn, he'⟩ := enclosed.takeEvents hP balanced taken
  rw [List.length_eq_zero_iff.1 hn] at hs'
  exact ⟨e', outer', hs', he'⟩

/-- A text that is attached to an object under a name of a type makes one call of the setter,
whether the name is an attribute of the object's element, with the text escaped, or an element
inside it. -/
theorem attachesOnce_alike (l : Loader) (c : DocumentContext) (nested : Option NestedLoad)
    (d : Draft) (w : World) {tag : Xml.StartTag} (ht : tag.IsInstance)
    {front back : List Xml.MarkupAttribute} (hfb : tag.attributes = front ++ back)
    (owner member s : String) (ho : isPlainName Text.isUppercase owner = true)
    (hm : isPlainName Text.isLowercase member = true) (hs : Text.isAllBlank s = false)
    (space space' : Option String) (hspace : space ≠ some Xml.controlPrefix)
    (hspace' : space' ≠ some Xml.controlPrefix) (at_ seen : Location) {d₁ : Draft} {w₁ : World}
    (opened : (takeEvents l c nested d [⟨.start tag, at_, seen⟩]).runIn w = (.ok d₁, w₁)) :
    let name := qualified owner member
    let withAttribute : Xml.StartTag :=
      { tag with attributes := front ++ ⟨space, name, AttributeForm.escape s⟩ :: back }
    let child : Xml.StartTag := ⟨tag.namespaceUri, space', name, []⟩
    let type := qualifiedType tag.namespaceUri owner
    ∃ o d₁', owner? d₁.stack = some o ∧ owner? d₁'.stack = some o ∧
      (∀ f, (takeEvents (l.attaching f) c nested d [⟨.start withAttribute, at_, seen⟩]).runIn w =
        (.ok d₁', w₁)) ∧
      (∀ d₂ w₂, AfterContent l c nested d₁' w₁ d₂ w₂ →
        d₂.AttachesAtEnd l c nested ⟨type, owner, member, AttributeForm.escape s⟩
          ⟨type, member, o, .string s⟩) ∧
      ∀ d₂ w₂, AfterContent l c nested d₁ w₁ d₂ w₂ →
        (∀ at_ seen, ∃ d₃ e,
          (takeEvents l c nested d₂ [⟨.start child, at_, seen⟩]).runIn w₂ = (.ok d₃, w₂) ∧
            d₃.stack = e :: d₂.stack ∧ splitQualified? e.name = some (type, member)) ∧
        ∀ items, items.map (·.event) = [.start child, .characters s, .close] →
          AttachesOnce (fun f => takeEvents (l.attaching f) c nested d₂ items) w₂
            ⟨type, member, o, .string s⟩ := by
  intro name withAttribute child type
  have divided : splitAttached? name = some (owner, member) := splitAttached?_qualified ho hm
  obtain ⟨_, _, started, ended⟩ := takeEvents_cons_eq_ok.1 opened
  cases ended
  rw [Draft.step_of_start rfl] at started
  let entry : AttachedAttribute := ⟨type, owner, member, AttributeForm.escape s⟩
  obtain ⟨o, e, before, after, stack, host, recorded⟩ :=
    Draft.openElement_insert (a := ⟨space, name, AttributeForm.escape s⟩) ht hfb hspace divided
      started
  let entries := before ++ entry :: after
  have stack' : (d₁.record entries).stack = { e with attached := entries } :: d.stack := by
    rw [Draft.record, stack]
    rfl
  have host' : Element.IsHost o entries { e with attached := entries } :=
    ⟨host.kind, host.value, rfl⟩
  refine ⟨o, d₁.record entries, owner?_of_isHost stack host, owner?_of_isHost stack' host',
    fun f => ?opening, fun d₂ w₂ content => ?outside, fun d₂ w₂ content => ?inside⟩
  case opening =>
    exact takeEvents_attaching_cons (x := ⟨.start withAttribute, at_, seen⟩) recorded nofun [] f
  case outside =>
    obtain ⟨e', outer, hs', he⟩ := content.encloses (Element.isHost_refill o entries) stack' host'
    exact Draft.attachesAtEnd_of_isHost hs' he (AttributeForm.read_escape s)
  case inside =>
    obtain ⟨e', outer, hs', he⟩ := content.encloses (Element.isHost_refill o _) stack host
    have around := owner?_of_isHost hs' he
    have bare : child.attributes = [] := rfl
    have unbound : child.space ≠ some Xml.controlPrefix := hspace'
    have named : splitAttached? child.name = some (owner, member) := divided
    refine ⟨fun at_ seen => ?_, fun items hi => ?_⟩
    · obtain ⟨d₃, hd, hs₃⟩ :=
        d₂.step_start_attached l c nested w₂ unbound named bare around at_ seen
      refine ⟨d₃, _, takeEvents_cons_eq_ok.2 ⟨d₃, w₂, hd, rfl⟩, hs₃, ?_⟩
      exact splitQualified?_qualified _ (not_mem_of_isPlainName hm)
    · exact attachesOnce_of_element unbound named bare hs around hi

end

/-- A panel in a namespace with dots in its address. -/
def panelTag : Xml.StartTag := ⟨some "http://a.b/c", none, "Panel", [⟨none, "title", "x"⟩]⟩

/-- The row of the panel in a grid, as an attribute and as an element. -/
theorem attachesOnce_alike_panel :
    let c : DocumentContext := ⟨none, ⟨0⟩, none, 0, .nothing⟩
    let opening (tag : Xml.StartTag) :=
      (takeEvents .plain c none (.start []) [⟨.start tag, .none, .none⟩]).runIn .empty
    let row := { panelTag with attributes := panelTag.attributes ++ [⟨none, "Grid.row", "@@1"⟩] }
    let inner : List Xml.Event :=
      [.start ⟨panelTag.namespaceUri, none, "Grid.row", []⟩, .characters "@1", .close]
    let call : AttachCall := ⟨"http://a.b/c.Grid", "row", ⟨0⟩, .string "@1"⟩
    ∃ d d' w, opening panelTag = (.ok d, w) ∧ opening row = (.ok d', w) ∧
      AttachesOnce (fun f => takeEvents (Loader.plain.attaching f) c none d'
        [⟨.close, .none, .none⟩]) w call ∧
      AttachesOnce (fun f => takeEvents (Loader.plain.attaching f) c none d
        (inner.map fun e => ⟨e, .none, .none⟩)) w call := by
  intro c opening row inner call
  let entry : AttachedAttribute := ⟨"http://a.b/c.Grid", "Grid", "row", "@@1"⟩
  have reached : (takeEvents Loader.plain c none (.start [])
      [⟨.start row, .none, .none⟩]).succeeds .empty (fun d w =>
        d.stack.head?.any fun e => e.value.object? == some ⟨0⟩ && e.attached == [entry] &&
          (Draft.endUpTo .plain c { d with stack := d.stack.tail } e ⟨0⟩ []).succeeds w fun _ w =>
            ((w.object ⟨0⟩).listeners? (listenersProperty "Grid")).isNone) = true := by
    decide +kernel
  have opened : (takeEvents Loader.plain c none (.start [])
      [⟨.start panelTag, .none, .none⟩]).succeeds .empty (fun _ _ => true) = true := by
    decide +kernel
  obtain ⟨d, w, hd, -⟩ := Op.exists_of_succeeds opened
  obtain ⟨d', w', hd', settles⟩ := Op.exists_of_succeeds reached
  have instances : panelTag.IsInstance := ⟨by decide, by decide, by decide⟩
  obtain ⟨o, d₁, -, around, opens, outside, inside⟩ :=
    attachesOnce_alike .plain c none (.start []) .empty instances (List.append_nil _).symm
      "Grid" "row" "@1" (by decide) (by decide) (by decide) none none (by decide) (by decide)
      .none .none hd
  have same : opening row = (.ok d₁, w) := opens Loader.plain.factory.attach
  cases hd'.symm.trans same
  rcases hs : d'.stack with _ | ⟨e, outer⟩ <;> rw [hs] at settles around
  · cases settles
  rw [List.head?_cons, Option.any_some, List.tail_cons, Bool.and_eq_true, Bool.and_eq_true,
    beq_iff_eq, beq_iff_eq] at settles
  obtain ⟨⟨first, alone⟩, settles⟩ := settles
  obtain ⟨d₃, w₃, ended, unlistened⟩ := Op.exists_of_succeeds settles
  obtain rfl : ⟨0⟩ = o := Option.some.inj (first.symm.trans around)
  have once := (outside d' w ⟨[], rfl, rfl⟩).attachesOnce hs alone ended
    (Option.isNone_iff_eq_none.1 unlistened) .none .none
  exact ⟨d, d', w, hd, same, once, (inside d w ⟨[], rfl, rfl⟩).2 _ rfl⟩

end Bxml
