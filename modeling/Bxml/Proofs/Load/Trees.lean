import Bxml.Proofs.Load.Moments
import Bxml.Proofs.Text.Case
import Bxml.Proofs.World.Dictionaries
import Mathlib.Data.List.TakeWhile

/-!
# Trees of dictionaries

Without declared types every uppercase element is a dictionary and every lowercase element inside it
one of its keys.  A tree of objects with strings at its leaves can therefore be written as a document
in many ways: a string as an attribute or as the text of an element, an object as an element inside
an element.  However it is written, what is loaded is the same tree: `toJson_of_events`.

* `Tree` and `TreeFields` are the ways to write a tree, `Tree.events` is what is written, and
  `Tree.json` the tree that is meant.
* `Takes` says what a document comes to by some events wherever they stand; `Tree.takes` and
  `TreeFields.takes` are the mutual induction, with `HasTree` and `HasFields` for the state.
* `Draft.Advances` is the frame: objects that were there are changed only where a key is written.

An attribute is set on its object when the element ends, after the keys that elements have given it,
so that the fields come in another order than they are written in; `Json.ofFields_perm` says that
this makes no difference.
-/

namespace Bxml

/-! ## Written trees -/

mutual

/-- A tree of objects as it is written: an object has a type and fields. -/
inductive Tree
  | node (typeName : String) (fields : TreeFields)

/-- The fields of an object in the order they are written: a string as an attribute or as the text
of an element, and an object inside an element. -/
inductive TreeFields
  | nil
  | inTag (name s : String) (rest : TreeFields)
  | inText (name s : String) (rest : TreeFields)
  | child (name : String) (t : Tree) (rest : TreeFields)

end

/-- A tag without prefix and namespace. -/
def plainTag (name : String) (attributes : List Xml.MarkupAttribute) : Xml.StartTag :=
  ⟨none, none, name, attributes⟩

/-- An attribute that stands for a text. -/
def plainAttribute (name s : String) : Xml.MarkupAttribute :=
  ⟨none, name, AttributeForm.escape s⟩

/-- Whether a name starts with a character of a class and has no dots. -/
def isPlainName (p : Char → Bool) (name : String) : Bool :=
  startsWith p name.toList && !name.toList.contains pathSeparator

namespace TreeFields

/-- The fields written as attributes. -/
def strings : TreeFields → List (String × String)
  | .nil => []
  | .inTag name s rest => (name, s) :: rest.strings
  | .inText _ _ rest => rest.strings
  | .child _ _ rest => rest.strings

/-- The attributes of the tag of an object. -/
def attributes (fs : TreeFields) : List Xml.MarkupAttribute :=
  fs.strings.map fun p => plainAttribute p.1 p.2

end TreeFields

mutual

/-- The events of a written tree. -/
def Tree.events : Tree → List Xml.Event
  | .node typeName fields =>
    .start (plainTag typeName fields.attributes) :: (fields.events ++ [.close])

/-- The events of the fields that are written as elements. -/
def TreeFields.events : TreeFields → List Xml.Event
  | .nil => []
  | .inTag _ _ rest => rest.events
  | .inText name s rest =>
    .start (plainTag name []) :: .characters s :: .close :: rest.events
  | .child name t rest =>
    .start (plainTag name []) :: (t.events ++ .close :: rest.events)

end

mutual

/-- The tree that is written. -/
def Tree.json : Tree → Json
  | .node typeName fields => .ofFields ((typeField, .string typeName) :: fields.json)

/-- The fields that are written. -/
def TreeFields.json : TreeFields → List (String × Json)
  | .nil => []
  | .inTag name s rest => (name, .string s) :: rest.json
  | .inText name s rest => (name, .string s) :: rest.json
  | .child name t rest => (name, t.json) :: rest.json

end

namespace TreeFields

/-- The names of the fields. -/
def names : TreeFields → List String
  | .nil => []
  | .inTag name _ rest => name :: rest.names
  | .inText name _ rest => name :: rest.names
  | .child name _ rest => name :: rest.names

/-- The fields written as elements. -/
def elements : TreeFields → List (String × Json)
  | .nil => []
  | .inTag _ _ rest => rest.elements
  | .inText name s rest => (name, .string s) :: rest.elements
  | .child name t rest => (name, t.json) :: rest.elements

end TreeFields

mutual

/-- Whether types start in uppercase and names of fields in lowercase, all without dots, no name is
used twice in an object, and no text of an element is blank. -/
def Tree.isProper : Tree → Bool
  | .node typeName fields =>
    isPlainName Text.isUppercase typeName && decide fields.names.Nodup && fields.isProper

@[inherit_doc Tree.isProper]
def TreeFields.isProper : TreeFields → Bool
  | .nil => true
  | .inTag name _ rest => isPlainName Text.isLowercase name && rest.isProper
  | .inText name s rest =>
    isPlainName Text.isLowercase name && !Text.isAllBlank s && rest.isProper
  | .child name t rest =>
    isPlainName Text.isLowercase name && t.isProper && rest.isProper

end

namespace TreeFields

/-- The fields written as attributes, as values. -/
def values (fs : TreeFields) : List (String × Value) :=
  fs.strings.map fun p => (p.1, .string p.2)

theorem map_fst_json : ∀ fs : TreeFields, fs.json.map Prod.fst = fs.names
  | .nil => rfl
  | .inTag name _ rest => congrArg (name :: ·) rest.map_fst_json
  | .inText name _ rest => congrArg (name :: ·) rest.map_fst_json
  | .child name _ rest => congrArg (name :: ·) rest.map_fst_json

/-- Every field is written either as an element or as an attribute. -/
theorem json_perm : ∀ fs : TreeFields,
    (fs.elements ++ fs.strings.map fun p => (p.1, Json.string p.2)).Perm fs.json
  | .nil => .refl _
  | .inTag name s rest => List.perm_middle.trans (rest.json_perm.cons (name, .string s))
  | .inText name s rest => by
    simpa only [json, elements, strings, List.cons_append] using rest.json_perm.cons (name, Json.string s)
  | .child name t rest => by
    simpa only [json, elements, strings, List.cons_append] using rest.json_perm.cons (name, t.json)

theorem isLowercase_of_mem_names : ∀ fs : TreeFields, fs.isProper = true → ∀ k ∈ fs.names,
    isPlainName Text.isLowercase k = true
  | .nil, _ => nofun
  | .inTag name s rest, h => by
    simp only [isProper, Bool.and_eq_true] at h
    exact List.forall_mem_cons.2 ⟨h.1, rest.isLowercase_of_mem_names h.2⟩
  | .inText name s rest, h => by
    simp only [isProper, Bool.and_eq_true] at h
    exact List.forall_mem_cons.2 ⟨h.1.1, rest.isLowercase_of_mem_names h.2⟩
  | .child name t rest, h => by
    simp only [isProper, Bool.and_eq_true] at h
    exact List.forall_mem_cons.2 ⟨h.1.1, rest.isLowercase_of_mem_names h.2⟩

theorem isLowercase_of_mem_strings (fs : TreeFields) (h : fs.isProper = true) :
    ∀ p ∈ fs.strings, isPlainName Text.isLowercase p.1 = true := by
  intro p hp
  refine fs.isLowercase_of_mem_names h p.1 ?_
  rw [← fs.map_fst_json]
  have field : (p.1, Json.string p.2) ∈ fs.json :=
    fs.json_perm.subset (List.mem_append_right _ (List.mem_map_of_mem hp))
  exact List.mem_map_of_mem field

/-- The names of the fields, those of elements first. -/
theorem names_perm (fs : TreeFields) :
    (fs.elements.map Prod.fst ++ fs.values.map Prod.fst).Perm fs.names := by
  have h := fs.json_perm.map Prod.fst
  rw [List.map_append, List.map_map] at h
  rw [values, List.map_map, ← fs.map_fst_json]
  exact h

end TreeFields

/-! ## Names -/

theorem splitAttached?_of_isPlainName {p : Char → Bool} {name : String}
    (h : isPlainName p name = true) : splitAttached? name = none := by
  simp only [isPlainName, Bool.and_eq_true, Bool.not_eq_true', List.contains_eq_mem,
    decide_eq_false_iff_not] at h
  have whole : name.toList.takeWhile (· != pathSeparator) = name.toList := by
    rw [List.takeWhile_eq_self_iff]
    intro c hc
    exact bne_iff_ne.2 fun e => h.2 (e ▸ hc)
  unfold splitAttached?
  simp [whole]

theorem startsWith_of_isPlainName {p : Char → Bool} {name : String}
    (h : isPlainName p name = true) : startsWith p name.toList = true :=
  (Bool.and_eq_true_iff.1 h).1

theorem not_startsWith_isUppercase {name : String}
    (h : isPlainName Text.isLowercase name = true) :
    startsWith Text.isUppercase name.toList = false := by
  have hs := startsWith_of_isPlainName h
  unfold startsWith at hs ⊢
  cases hn : name.toList with
  | nil => rfl
  | cons c r =>
    rw [hn] at hs
    exact Text.isUppercase_of_isLowercase hs

/-! ## Taking events -/

section

variable {l : Loader} {c : DocumentContext} {nested : Option NestedLoad} {d : Draft} {w : World}

/-- Whether a document takes some events, wherever they stand, and comes to a state with `P`. -/
def Takes (l : Loader) (c : DocumentContext) (nested : Option NestedLoad) (d : Draft) (w : World)
    (events : List Xml.Event) (P : Draft → World → Prop) : Prop :=
  ∀ items : List Xml.Located, items.map (·.event) = events →
    ∃ d' u, (takeEvents l c nested d items).runIn w = (.ok d', u) ∧ P d' u

namespace Takes

variable {P Q : Draft → World → Prop} {events events' : List Xml.Event}

theorem nil (h : P d w) : Takes l c nested d w [] P := by
  intro items hi
  obtain rfl := List.map_eq_nil_iff.1 hi
  exact ⟨d, w, rfl, h⟩

/-- The first event is taken, and then the others. -/
theorem cons {event : Xml.Event}
    (h : ∀ at_ seen, ∃ d' u, (d.step l c nested ⟨event, at_, seen⟩).runIn w = (.ok d', u) ∧
      Takes l c nested d' u events P) : Takes l c nested d w (event :: events) P := by
  intro items hi
  obtain ⟨⟨ev, at_, seen⟩, r, rfl, rfl, hr⟩ := List.map_eq_cons_iff.1 hi
  obtain ⟨d', u, hs, ht⟩ := h at_ seen
  rw [takeEvents_cons, Moment.result, hs]
  exact ht r hr

theorem append (h : Takes l c nested d w events Q)
    (hq : ∀ d' u, Q d' u → Takes l c nested d' u events' P) :
    Takes l c nested d w (events ++ events') P := by
  intro items hi
  obtain ⟨front, back, rfl, hf, hb⟩ := List.map_eq_append_iff.1 hi
  obtain ⟨d', u, ht, hd⟩ := h front hf
  obtain ⟨d'', u', ht', hp⟩ := hq d' u hd back hb
  refine ⟨d'', u', ?_, hp⟩
  unfold takeEvents at ht ht' ⊢
  rw [List.foldlM_append, Op.bind_runIn_of_ok ht, ht']

theorem mono (h : Takes l c nested d w events P) (hq : ∀ d' u, P d' u → Q d' u) :
    Takes l c nested d w events Q := by
  intro items hi
  obtain ⟨d', u, ht, hp⟩ := h items hi
  exact ⟨d', u, ht, hq d' u hp⟩

end Takes

/-! ## Starts -/

/-- An open element that stands for an object and has no id; `values` are to be set on the object
when it ends. -/
structure Element.IsInstance (e : Element) (o : ObjectId) (values : List (String × Value)) : Prop
    where
  kind : e.kind = .instanceOf
  value : e.value = .object o
  id : e.id = none
  attached : e.attached = []
  attributes : e.attributes = .ofList values

theorem Attributed.add_plainAttribute {x : Attributed} {name : String} (s : String)
    (hk : x.element.kind = .instanceOf) (hn : isPlainName Text.isLowercase name = true) :
    (x.add c none (plainAttribute name s)).runIn w = (.ok (x.addValue name (.string s)), w) := by
  have plain := splitAttached?_of_isPlainName hn
  simp only [Attributed.add, plainAttribute, reduceCtorEq, if_false, hk,
    ElementKind.controlAttributes, List.contains_nil, Bool.false_eq_true, plain,
    Attributed.addResolved, DocumentContext.resolveAttribute, AttributeForm.read_escape]
  rfl

/-- The attributes that stand for texts are set aside in their order. -/
theorem Attributed.foldlM_add (ps : List (String × String))
    (hn : ∀ p ∈ ps, isPlainName Text.isLowercase p.1 = true) {x : Attributed}
    (hk : x.element.kind = .instanceOf) :
    ((ps.map fun p => plainAttribute p.1 p.2).foldlM (Attributed.add c none) x).runIn w =
      (.ok ⟨{ x.element with
        attributes := x.element.attributes.insertAll (ps.map fun p => (p.1, .string p.2)) },
        x.bound⟩, w) := by
  induction ps generalizing x with
  | nil => rfl
  | cons p ps ih =>
    rw [List.forall_mem_cons] at hn
    have next : (x.addValue p.1 (.string p.2)).element.kind = .instanceOf := hk
    rw [List.map_cons, List.foldlM_cons, Op.bind_runIn_of_ok (add_plainAttribute p.2 hk hn.1),
      ih hn.2 next]
    rfl

variable (l c nested) in
/-- An uppercase element is a new dictionary. -/
theorem Draft.step_start_instance (hl : l.factory = .dictionaries l.host) {n : String}
    {fs : TreeFields} (hn : isPlainName Text.isUppercase n = true)
    (hf : ∀ p ∈ fs.strings, isPlainName Text.isLowercase p.1 = true) (at_ seen : Location) :
    ∃ d' u e, (d.step l c nested ⟨.start (plainTag n fs.attributes), at_, seen⟩).runIn w =
        (.ok d', u) ∧ d'.stack = e :: d.stack ∧ d'.parented = d.parented ∧
      e.IsInstance ⟨w.objects.size⟩ fs.values ∧
      u.objects = w.objects.push (.emptyDictionary n) := by
  let e := { Element.new .instanceOf n (.object ⟨w.objects.size⟩) at_ with
    attributes := Entries.ofList fs.values }
  have classified : (classify l (d.settleLanguage l).stack (plainTag n fs.attributes) at_).runIn w =
      (.ok ⟨.instanceOf, n, .object ⟨w.objects.size⟩⟩,
        (w.alloc (.emptyDictionary n)).2.log .trace s!"Constructed {n}") := by
    have upper := startsWith_of_isPlainName hn
    simp only [classify, plainTag, reduceCtorEq, if_false, splitAttached?_of_isPlainName hn, upper,
      if_true, classifyInstance, hl, TypeFactory.dictionaries]
    rfl
  have started : (startElement l c nested (d.settleLanguage l) (plainTag n fs.attributes)
      at_).runIn w = (.ok (⟨e, []⟩, .known e.value),
        (w.alloc (.emptyDictionary n)).2.log .trace s!"Constructed {n}") := by
    rw [startElement, Op.bind_runIn_of_ok classified]
    exact Op.bind_runIn_of_ok (Attributed.foldlM_add fs.strings hf rfl)
  refine ⟨{ d.settleLanguage l with stack := e :: d.stack, bindings := d.bindings ++ [] },
    (w.alloc (.emptyDictionary n)).2.log .trace s!"Constructed {n}", e, ?_, rfl, rfl,
    ⟨rfl, rfl, rfl, rfl, rfl⟩, rfl⟩
  change (Draft.openElement l c nested d _ at_).runIn w = _
  rw [Draft.openElement, Op.bind_runIn_of_ok started]
  rfl

variable (l c nested) in
/-- A lowercase element inside a dictionary is one of its keys. -/
theorem Draft.step_start_property {e : Element} {outer : List Element} {o : ObjectId} {n : String}
    {m : Entries Value} (hs : d.stack = e :: outer) (he : e.value = .object o)
    (ho : w.IsPlain o n m) {name : String} (hn : isPlainName Text.isLowercase name = true)
    (at_ seen : Location) :
    ∃ d', (d.step l c nested ⟨.start (plainTag name []), at_, seen⟩).runIn w = (.ok d', w) ∧
      d'.stack = .new .writable name .null at_ :: e :: outer ∧ d'.parented = d.parented := by
  have classified : (classify l (d.settleLanguage l).stack (plainTag name []) at_).runIn w =
      (.ok ⟨.writable, name, .null⟩, w) := by
    have lower := not_startsWith_isUppercase hn
    simp only [classify, plainTag, reduceCtorEq, if_false, splitAttached?_of_isPlainName hn, lower,
      Bool.false_eq_true, Option.isSome_none, classifyProperty, Draft.settleLanguage, hs,
      List.head?_cons, orFail_some, pure_bind, objectOr, he, Value.object?]
    rw [Op.bind_runIn_of_ok (Op.read_runIn _ _), ho.object_eq]
    rfl
  refine ⟨{ d.settleLanguage l with
    stack := .new .writable name .null at_ :: d.stack, bindings := d.bindings ++ [] }, ?_, ?_, rfl⟩
  · change (Draft.openElement l c nested d _ at_).runIn w = _
    rw [Draft.openElement, startElement, bind_assoc, Op.bind_runIn_of_ok classified]
    rfl
  · rw [hs]

/-- Text inside a key is its value. -/
theorem Draft.step_characters {p : Element} {outer : List Element} (hs : d.stack = p :: outer)
    (hk : p.kind.takesValue = true) {s : String} (hb : Text.isAllBlank s = false)
    (at_ seen : Location) :
    (d.step l c nested ⟨.characters s, at_, seen⟩).runIn w =
      (.ok { d with stack := { p with value := .string s, text := some s } :: outer }, w) := by
  simp only [Draft.step, Draft.addText, hb, Bool.false_eq_true, if_false, hs]
  cases kind : p.kind with
  | writable => rfl
  | attached => rfl
  | _ =>
    rw [kind] at hk
    cases hk

/-! ## Ends -/

/-- Some pairs are written to a plain dictionary in their order. -/
theorem World.IsPlain.forM_setProperty (host : Host) (h : Held) {o : ObjectId} {n : String}
    {m : Entries Value} (ho : w.IsPlain o n m) (ps : List (String × Value)) :
    ∃ u, (ps.forM fun p => (host.setProperty h o p.1 p.2).mapError LoadError.property).runIn w =
        (.ok (), u) ∧ u.IsPlain o n (m.insertAll ps) ∧ u.objects.size = w.objects.size ∧
      w.Extends u (· ≠ o.index) := by
  induction ps generalizing w m with
  | nil => exact ⟨w, rfl, ho, rfl, .refl w _⟩
  | cons p ps ih =>
    obtain ⟨v, hv, plain, size, before⟩ := ho.setProperty host h p.1 p.2
    obtain ⟨u, hu, plain', size', after⟩ := ih plain
    have first : ((host.setProperty h o p.1 p.2).mapError LoadError.property).runIn w =
        (.ok (), v) := Op.mapError_runIn_eq_ok.2 hv
    refine ⟨u, ?_, plain', size'.trans size, before.trans after⟩
    exact (Op.bind_runIn_of_ok first).trans hu

/-- Whether a draft has just taken the value of an element that was closed inside of the given open
ones: the innermost of these has it as its value, and if there is none it is the root. -/
def Draft.HasTaken (d : Draft) (outer : List Element) (v : Value) : Prop :=
  match outer with
  | [] => d.stack = [] ∧ d.root = some v
  | p :: outer => d.stack = { p with value := v } :: outer

variable (l c nested) in
/-- At the end of a key its value is stored. -/
theorem Draft.step_close_property {p e : Element} {outer : List Element} {o : ObjectId} {n : String}
    {m : Entries Value} (hs : d.stack = p :: e :: outer) (hk : p.kind = .writable)
    (hi : p.id = none) (he : e.value = .object o) (ho : w.IsPlain o n m) (at_ seen : Location) :
    ∃ d' u, (d.step l c nested ⟨.close, at_, seen⟩).runIn w = (.ok d', u) ∧
      d'.stack = e :: outer ∧ d'.parented = d.parented ∧
      u.IsPlain o n (m.insert p.name p.value) ∧ u.objects.size = w.objects.size ∧
      w.Extends u (· ≠ o.index) := by
  let inner : Draft := { d with stack := e :: outer }
  obtain ⟨u, hu, plain, size, keeps⟩ :=
    ho.setProperty l.host (inner.held c p.heldValues) p.name p.value
  refine ⟨inner, u, ?_, rfl, rfl, plain, size, keeps⟩
  have closed : (closeAs l c inner p).runIn w = (.ok inner, u) := by
    have owner : owner? inner.stack = some o := by
      simp [inner, owner?, he, Value.object?]
    simp only [closeAs, hk, owner, orFail_some, pure_bind]
    rw [Op.bind_runIn_of_ok (Op.mapError_runIn_eq_ok.2 hu)]
    rfl
  change (Draft.closeElement l c d at_).runIn w = _
  simp only [Draft.closeElement, hs]
  rw [Op.bind_runIn_of_ok closed]
  simp only [registerId, hi]
  rfl

variable (l c nested) in
/-- At the end of an object its attributes are stored, and the element around it takes it. -/
theorem Draft.step_close_instance {e : Element} {outer : List Element} {o : ObjectId} {n : String}
    {m : Entries Value} {values : List (String × Value)} (hs : d.stack = e :: outer)
    (he : e.IsInstance o values) (ho : w.IsPlain o n m)
    (hv : (values.map Prod.fst).Nodup) (hk : ∀ p ∈ outer.head?, p.kind = .writable)
    (hp : o ∉ d.parented) (at_ seen : Location) :
    ∃ d' u, (d.step l c nested ⟨.close, at_, seen⟩).runIn w = (.ok d', u) ∧
      d'.HasTaken outer (.object o) ∧ (∀ p ∈ d'.parented, p ∈ d.parented ∨ p = o) ∧
      u.IsPlain o n (m.insertAll values) ∧ u.objects.size = w.objects.size ∧
      w.Extends u (· ≠ o.index) := by
  let inner : Draft := { d with stack := outer }
  obtain ⟨u, hu, plain, size, keeps⟩ :=
    ho.forM_setProperty l.host (inner.held c e.heldValues) values
  have listed : e.attributes.toList = values := by
    rw [he.attributes]
    exact Entries.toList_insertAll hv
  -- first the attributes are set
  have applied : (applyAttributes l (inner.held c e.heldValues) e).runIn w = (.ok (), u) := by
    unfold applyAttributes
    split
    · next empty =>
      rw [Entries.isEmpty, listed, List.isEmpty_iff] at empty
      subst empty
      exact hu
    · rw [objectOr, he.value, listed]
      exact hu
  -- then the object is handed to the element around it
  have composed : ∃ d', (compose l c inner e).runIn u = (.ok d', u) ∧
      d'.stack = (match outer with
        | [] => []
        | p :: outer => { p with value := e.value } :: outer) ∧
      ∀ p ∈ d'.parented, p ∈ d.parented ∨ p = o := by
    cases outer with
    | nil => exact ⟨inner, rfl, rfl, fun p hp => .inl hp⟩
    | cons p outer =>
      have writable : p.kind.takesValue = true := by
        rw [hk p rfl]
        rfl
      refine ⟨{ inner with stack := { p with value := e.value } :: outer, parented := o :: d.parented },
        ?_, rfl, fun q hq => (List.mem_cons.1 hq).symm⟩
      have new : (!d.parented.contains o) = true := by simpa using hp
      simp only [compose, receiver?, inner, writable, if_true, he.value, adopt, require, new]
      rfl
  obtain ⟨d', hd, stack, parented⟩ := composed
  have closed : (closeAs l c inner e).runIn w = (.ok d', u) := by
    simp only [closeAs, he.kind]
    rw [Op.bind_runIn_of_ok applied, Op.bind_runIn_of_ok hd]
    simp only [applyAttachedAttributes, he.attached]
    rfl
  have ended : (Draft.step l c nested d ⟨.close, at_, seen⟩).runIn w =
      (.ok (if d'.stack.isEmpty then { d' with root := some e.value } else d'), u) := by
    change (Draft.closeElement l c d at_).runIn w = _
    simp only [Draft.closeElement, hs]
    rw [Op.bind_runIn_of_ok closed]
    simp only [registerId, he.id]
    rfl
  refine ⟨_, u, ended, ?_, ?_, plain, size, keeps⟩
  · cases outer with
    | nil => simp [stack, Draft.HasTaken, he.value]
    | cons p outer => simp [stack, Draft.HasTaken, he.value]
  · intro p hp
    split at hp <;> exact parented p hp

/-! ## What has been taken -/

/-- Whether a document went on without changing the objects outside of `keeps`, and gave parents to
new objects only. -/
structure Draft.Advances (d : Draft) (w : World) (d' : Draft) (u : World) (keeps : Nat → Prop) :
    Prop where
  world : w.Extends u keeps
  parented : ∀ p ∈ d'.parented,
    p ∈ d.parented ∨ w.objects.size ≤ p.index ∧ p.index < u.objects.size

/-- Whether all objects that have a parent exist. -/
def Draft.IsWithin (d : Draft) (w : World) : Prop := ∀ p ∈ d.parented, p.index < w.objects.size

namespace Draft.Advances

variable {d' d'' : Draft} {u v : World} {keeps keeps' : Nat → Prop}

theorem of_eq (h : w.Extends u keeps) (hp : d'.parented = d.parented) :
    d.Advances w d' u keeps :=
  ⟨h, fun _ hm => .inl (hp ▸ hm)⟩

theorem mono (h : d.Advances w d' u keeps) (hk : ∀ i, keeps' i → keeps i) :
    d.Advances w d' u keeps' :=
  ⟨h.world.mono hk, h.parented⟩

theorem trans (h : d.Advances w d' u keeps) (h' : d'.Advances u d'' v keeps) :
    d.Advances w d'' v keeps where
  world := h.world.trans h'.world
  parented p hp := by
    have size := h.world.size_le
    have size' := h'.world.size_le
    rcases h'.parented p hp with hp | hp
    · exact (h.parented p hp).imp id fun hp => by omega
    · exact .inr (by omega)

theorem isWithin (h : d.Advances w d' u keeps) (hd : d.IsWithin w) : d'.IsWithin u := by
  intro p hp
  rcases h.parented p hp with hp | hp
  · exact Nat.lt_of_lt_of_le (hd p hp) h.world.size_le
  · exact hp.2

end Draft.Advances

/-- Whether the elements of some fields have been taken inside of an object that had the entries `m`
before: it has a value for each of them. -/
structure HasFields (d : Draft) (w : World) (stack : List Element) (o : ObjectId) (n : String)
    (m : Entries Value) (fields : List (String × Json)) (d' : Draft) (u : World) : Prop where
  stack : d'.stack = stack
  advances : d.Advances w d' u (· ≠ o.index)
  entries : ∃ added, u.IsPlain o n (m.insertAll added) ∧
    List.Forall₂ (u.RendersField (o.index + 1)) added fields

/-- Whether a tree has been taken: its root is a new object, which is written like the tree. -/
structure HasTree (d : Draft) (w : World) (j : Json) (d' : Draft) (u : World) : Prop where
  taken : d'.HasTaken d.stack (.object ⟨w.objects.size⟩)
  advances : d.Advances w d' u fun _ => True
  renders : u.Renders (.object ⟨w.objects.size⟩) j w.objects.size

/-- A key whose value is known ends, and the fields after it are taken. -/
theorem Takes.close_property {p e : Element} {outer : List Element} {o : ObjectId} {n : String}
    {m : Entries Value} {j : Json} {events : List Xml.Event} {fields : List (String × Json)}
    (hs : d.stack = p :: e :: outer) (hk : p.kind = .writable) (hi : p.id = none)
    (he : e.value = .object o) (ho : w.IsPlain o n m) (hj : w.Renders p.value j (o.index + 1))
    (hd : d.IsWithin w)
    (rest : ∀ {d' : Draft} {u : World} {m : Entries Value}, d'.stack = e :: outer →
      u.IsPlain o n m → d'.IsWithin u →
      Takes l c nested d' u events (HasFields d' u (e :: outer) o n m fields)) :
    Takes l c nested d w (.close :: events)
      (HasFields d w (e :: outer) o n m ((p.name, j) :: fields)) := by
  refine .cons fun at_ seen => ?_
  obtain ⟨d', v, hc, stack, parented, plain, size, keeps⟩ :=
    Draft.step_close_property l c nested hs hk hi he ho at_ seen
  have first : d.Advances w d' v (· ≠ o.index) := .of_eq keeps parented
  refine ⟨d', v, hc, (rest stack plain (first.isWithin hd)).mono fun d'' u h => ?_⟩
  obtain ⟨added, plain', written⟩ := h.entries
  have after : w.Extends u (o.index + 1 ≤ ·) :=
    (keeps.trans h.advances.world).mono fun i hi => Nat.ne_of_gt hi
  exact ⟨h.stack, first.trans h.advances, (p.name, p.value) :: added, plain',
    .cons ⟨rfl, hj.mono (Nat.le_refl _) after⟩ written⟩

/-- An object whose entries are those for the elements and those for the attributes is written like
the tree. -/
theorem TreeFields.renders (fs : TreeFields) (hf : fs.isProper = true) (hn : fs.names.Nodup)
    {o : ObjectId} {n : String} {added : List (String × Value)}
    (plain : w.IsPlain o n ((Entries.empty.insertAll added).insertAll fs.values))
    (written : List.Forall₂ (w.RendersField (o.index + 1)) added fs.elements) :
    w.Renders (.object o) (Tree.node n fs).json o.index := by
  have added_names : added.map Prod.fst = fs.elements.map Prod.fst := by
    rw [← List.forall₂_eq_eq_eq, List.forall₂_map_left_iff, List.forall₂_map_right_iff]
    exact written.imp fun p q hpq => hpq.1
  have nodup : (added.map Prod.fst ++ fs.values.map Prod.fst).Nodup := by
    rw [added_names]
    exact fs.names_perm.nodup_iff.2 hn
  have listed : ((Entries.empty.insertAll added).insertAll fs.values).toList =
      added ++ fs.values := by
    have first : (Entries.empty.insertAll added).toList = added :=
      Entries.toList_insertAll nodup.of_append_left
    rw [Entries.toList_insertAll (by rw [Entries.keys, first]; exact nodup), first]
  have strings : List.Forall₂ (w.RendersField (o.index + 1)) fs.values
      (fs.strings.map fun p => (p.1, Json.string p.2)) := by
    rw [TreeFields.values, List.forall₂_map_left_iff, List.forall₂_map_right_iff,
      List.forall₂_same]
    exact fun p _ => ⟨rfl, w.renders_string _ _⟩
  have all : List.Forall₂ (w.RendersField (o.index + 1))
      ((Entries.empty.insertAll added).insertAll fs.values).toList
      (fs.elements ++ fs.strings.map fun p => (p.1, Json.string p.2)) := by
    rw [listed]
    exact List.rel_append written strings
  have distinct : (typeField :: fs.names).Nodup := by
    refine List.nodup_cons.2 ⟨fun hm => ?_, hn⟩
    exact absurd (fs.isLowercase_of_mem_names hf _ hm) (by decide)
  rw [Tree.json, Json.ofFields_perm (fs.json_perm.cons _).symm]
  · exact World.renders_object plain all
  · rw [List.map_cons, fs.map_fst_json]
    exact distinct

mutual

/-- The elements inside of an object give it its keys. -/
theorem TreeFields.takes (hl : l.factory = .dictionaries l.host) :
    ∀ (fs : TreeFields), fs.isProper = true → ∀ {d : Draft} {w : World} {e : Element}
      {outer : List Element} {o : ObjectId} {n : String} {m : Entries Value},
      d.stack = e :: outer → e.value = .object o → w.IsPlain o n m → d.IsWithin w →
      Takes l c nested d w fs.events (HasFields d w (e :: outer) o n m fs.elements)
  | .nil, _, _, w, _, _, _, _, _, hs, _, ho, _ =>
    .nil ⟨hs, .of_eq (.refl w _) rfl, [], ho, .nil⟩
  | .inTag _ _ rest, hf, _, _, _, _, _, _, _, hs, he, ho, hd => by
    simp only [TreeFields.isProper, Bool.and_eq_true] at hf
    exact rest.takes hl hf.2 hs he ho hd
  | .inText name s rest, hf, d, w, e, outer, o, n, m, hs, he, ho, hd => by
    simp only [TreeFields.isProper, Bool.and_eq_true, Bool.not_eq_true'] at hf
    obtain ⟨⟨name_ok, s_ok⟩, rest_ok⟩ := hf
    refine .cons fun at_ seen => ?_
    obtain ⟨d₁, h₁, stack, parented⟩ := Draft.step_start_property l c nested hs he ho name_ok at_ seen
    refine ⟨d₁, w, h₁, .cons fun at_' seen => ?_⟩
    refine ⟨_, w, Draft.step_characters stack rfl s_ok at_' seen, ?_⟩
    let p := { Element.new .writable name .null at_ with value := .string s, text := some s }
    have within : d₁.IsWithin w := fun q hq => hd q (parented ▸ hq)
    have written : w.Renders p.value (.string s) (o.index + 1) := w.renders_string s _
    refine (Takes.close_property (d := { d₁ with stack := p :: e :: outer }) rfl rfl rfl he ho
      written within
      fun hs ho hd => rest.takes hl rest_ok hs he ho hd).mono fun d' u h => ?_
    exact ⟨h.stack, ⟨h.advances.world, fun p hp => parented ▸ h.advances.parented p hp⟩, h.entries⟩
  | .child name t rest, hf, d, w, e, outer, o, n, m, hs, he, ho, hd => by
    simp only [TreeFields.isProper, Bool.and_eq_true] at hf
    obtain ⟨⟨name_ok, t_ok⟩, rest_ok⟩ := hf
    refine .cons fun at_ seen => ?_
    obtain ⟨d₁, h₁, stack, parented⟩ := Draft.step_start_property l c nested hs he ho name_ok at_ seen
    have within : d₁.IsWithin w := fun p hp => hd p (parented ▸ hp)
    have writable : ∀ p ∈ d₁.stack.head?, p.kind = .writable := by
      rw [stack]
      rintro _ ⟨⟩
      rfl
    refine ⟨d₁, w, h₁, (t.takes hl t_ok writable within).append fun d₂ v h => ?_⟩
    have first : d.Advances w d₁ w (· ≠ o.index) := .of_eq (.refl w _) parented
    have second : d.Advances w d₂ v (· ≠ o.index) :=
      first.trans (h.advances.mono fun _ _ => trivial)
    have taken := h.taken
    rw [stack, Draft.HasTaken] at taken
    have plain : v.IsPlain o n m := ho.of_extends h.advances.world trivial
    have written : v.Renders (.object ⟨w.objects.size⟩) t.json (o.index + 1) :=
      h.renders.mono ho.lt_size (.refl v _)
    refine (Takes.close_property taken rfl rfl he plain written (second.isWithin hd)
      fun hs ho hd => rest.takes hl rest_ok hs he ho hd).mono fun d' u h => ?_
    exact ⟨h.stack, second.trans h.advances, h.entries⟩

/-- A tree is taken as a new object. -/
theorem Tree.takes (hl : l.factory = .dictionaries l.host) :
    ∀ (t : Tree), t.isProper = true → ∀ {d : Draft} {w : World},
      (∀ p ∈ d.stack.head?, p.kind = .writable) → d.IsWithin w →
      Takes l c nested d w t.events (HasTree d w t.json)
  | .node n fs, ht, d, w, hk, hd => by
    simp only [Tree.isProper, Bool.and_eq_true, decide_eq_true_eq] at ht
    obtain ⟨⟨name_ok, names⟩, fields_ok⟩ := ht
    refine .cons fun at_ seen => ?_
    obtain ⟨d₁, u₁, e, h₁, stack₁, parented₁, he, objects⟩ :=
      Draft.step_start_instance l c nested (d := d) (w := w) hl name_ok
        (fs.isLowercase_of_mem_strings fields_ok) at_ seen
    have plain₁ : u₁.IsPlain ⟨w.objects.size⟩ n .empty := by
      simp [World.IsPlain, objects, Object.emptyDictionary]
    have made : d.Advances w d₁ u₁ fun _ => True := .of_eq
      ⟨by simp [objects], fun i _ hi => by
        rw [objects, Array.getElem?_push, if_neg (Nat.ne_of_lt hi)]⟩ parented₁
    refine ⟨d₁, u₁, h₁, (fs.takes hl fields_ok stack₁ he.value plain₁
      (made.isWithin hd)).append fun d₂ u₂ h => .cons fun at_ seen => ?_⟩
    obtain ⟨added, plain₂, written⟩ := h.entries
    have single : ⟨w.objects.size⟩ ∉ d₂.parented := by
      intro hp
      rcases h.advances.parented _ hp with hp | hp
      · exact Nat.lt_irrefl _ (hd _ (parented₁ ▸ hp))
      · have := hp.1
        rw [objects, Array.size_push] at this
        exact Nat.not_succ_le_self _ this
    have nodup : (fs.elements.map Prod.fst ++ fs.values.map Prod.fst).Nodup :=
      fs.names_perm.nodup_iff.2 names
    obtain ⟨d₃, u₃, h₃, taken, parented₃, plain₃, size, keeps⟩ :=
      Draft.step_close_instance l c nested h.stack he plain₂
        nodup.of_append_right hk single at_ seen
    have before : d.Advances w d₂ u₂ (· ≠ w.objects.size) :=
      (made.mono fun _ _ => trivial).trans h.advances
    refine ⟨d₃, u₃, h₃, .nil ⟨taken, ⟨(before.world.trans keeps).of_ne_size, ?_⟩, ?_⟩⟩
    · intro p hp
      rw [size]
      rcases parented₃ p hp with hp | rfl
      · exact before.parented p hp
      · exact .inr ⟨Nat.le_refl _, plain₂.lt_size⟩
    · have after : u₂.Extends u₃ (w.objects.size + 1 ≤ ·) :=
        keeps.mono fun i hi => Nat.ne_of_gt hi
      exact fs.renders fields_ok names plain₃ (written.imp fun p q hpq => hpq.mono after)

end

end

/-! ## Reading a written tree -/

/-- Loading a written tree gives the tree. -/
theorem toJson_of_events {l : Loader} (hl : l.factory = .dictionaries l.host) (c : DocumentContext)
    (nested : Option NestedLoad) (w : World) {t : Tree} (ht : t.isProper = true)
    (items : List Xml.Located) (hi : items.map (·.event) = t.events) :
    ∃ d u root, (takeEvents l c nested (.start []) items).runIn w = (.ok d, u) ∧
      d.finish.runIn u = (.ok root, u) ∧ u.toJson root = t.json := by
  have bare : ∀ p ∈ (Draft.start []).stack.head?, p.kind = .writable := by
    rintro _ ⟨⟩
  have takes : Takes l c nested (.start []) w t.events (HasTree (.start []) w t.json) :=
    t.takes hl ht bare nofun
  obtain ⟨d, u, run, tree⟩ := takes items hi
  obtain ⟨stack, root⟩ := tree.taken
  refine ⟨d, u, .object ⟨w.objects.size⟩, run, ?_, ?_⟩
  · rw [Draft.finish, stack, root]
    rfl
  · exact tree.renders u (.refl u _) [] nofun

/-- A window with a title that starts with a sentinel, and a button in it. -/
def windowTree : Tree :=
  .node "Window" (.inTag "title" "@home"
    (.child "content" (.node "Button" (.inText "label" "Go" .nil)) .nil))

theorem toJson_of_window_events :
    ∃ d u root,
      (takeEvents Loader.plain ⟨none, ⟨0⟩, none, 0, .nothing⟩ none (.start [])
        (windowTree.events.map fun e => ⟨e, .none, .none⟩)).runIn .empty = (.ok d, u) ∧
      d.finish.runIn u = (.ok root, u) ∧
      u.toJson root = .object [
        ("@type", .string "Window"),
        ("content", .object [("@type", .string "Button"), ("label", .string "Go")]),
        ("title", .string "@home")] := by
  obtain ⟨d, u, root, run, finish, json⟩ := toJson_of_events (l := Loader.plain) rfl
    ⟨none, ⟨0⟩, none, 0, .nothing⟩ none .empty (t := windowTree) (by decide)
    (windowTree.events.map fun e => ⟨e, .none, .none⟩) rfl
  exact ⟨d, u, root, run, finish, json⟩

end Bxml
