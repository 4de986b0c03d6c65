import Bxml.Proofs.Load.Isolation
import Bxml.Proofs.Load.Portable
import Bxml.Proofs.Twins.Alike

/-!
# Inline includes

An include element that is inline and says nothing else stands for the root of its document.  While
it starts, the document is loaded with the ids of the including one, and when it ends, the root is
handed to the element around it: that is all it does.

* A `Site` is where an include asks for a document: the loader, the document under construction and
  the world.  `Site.taken` is what becomes of the document that is asked for when it takes some
  events.
* `takeEvents_inclusion_of_ok`, `takeEvents_inclusion_of_error` and
  `takeEvents_inclusion_of_tooDeep` say what the events of the include element come to.  Their
  hypotheses are that nothing is to be run on the root (`Site.Initializes`) and that the document
  has no bindings.
* `composeFirst` and `composeLast` are the two orders in which an element may be handed over; an
  instance has the first (`Draft.closeElement_of_instance`), an include the second
  (`Draft.closeElement_of_inline`).  Whether they come to the same is the matter of
  `Load/Handover.lean`.
-/

namespace Bxml

namespace Xml

/-- An element of a document: its start, its end, and the events in between. -/
structure Markup where
  tag : StartTag
  opening : Located
  content : List Located
  closing : Located
  opening_event : opening.event = .start tag
  closing_event : closing.event = .close
  balanced : levelAfter 0 content = some 0

/-- The events of an element. -/
def Markup.items (m : Markup) : List Located := m.opening :: (m.content ++ [m.closing])

/-- Whether an element is an inline include of a source, without other attributes and children. -/
structure Markup.IsInlineInclude (m : Markup) (src : String) : Prop where
  space : m.tag.space = some controlPrefix
  name : m.tag.name = includeTag
  attributes : m.tag.attributes = [⟨none, srcAttribute, src⟩, ⟨none, inlineAttribute, "true"⟩] ∨
    m.tag.attributes = [⟨none, inlineAttribute, "true"⟩, ⟨none, srcAttribute, src⟩]
  content : m.content = []

end Xml

/-- Whether an element that has started is an inline include of a source and nothing else. -/
structure Element.IsInlineInclude (e : Element) (src : String) : Prop where
  kind : e.kind = .inclusion
  value : e.value = .null
  id : e.id = none
  attributes : e.attributes = .empty
  attached : e.attached = []
  source : e.control.get? srcAttribute = some src
  shares : isInline e = true
  resources : e.control.get? resourcesAttribute = none
  charset : e.control.get? charsetAttribute = none

variable {l : Loader} {c : DocumentContext} {d d' : Draft} {w v : World}

/-! ## The start of an include -/

/-- Inside another element an inline include loads its document, and is put on the stack with the
root of it. -/
theorem Draft.openElement_of_inline {m : Xml.Markup} {src : String} (hm : m.IsInlineInclude src)
    (hd : d.stack ≠ []) (at_ : Location) :
    ∃ e, e.IsInlineInclude src ∧ ∀ nested w, (d.openElement l c nested m.tag at_).runIn w =
      (do
        let (root, d) ← loadInclude l c nested (d.settleLanguage l) e
        d.push ⟨e, []⟩ root d.parented).runIn w := by
  obtain ⟨first, outer, hs⟩ := List.exists_cons_of_ne_nil hd
  have classified (w : World) : (classify l d.stack m.tag at_).runIn w =
      (.ok ⟨.inclusion, controlName includeTag, .null⟩, w) := by
    unfold classify
    rw [if_pos hm.space, hm.name, hs]
    rfl
  have element (control : Entries String) (hc : control.get? srcAttribute = some src)
      (hi : control.get? inlineAttribute = some "true")
      (hr : control.get? resourcesAttribute = none) (hx : control.get? charsetAttribute = none) :
      Element.IsInlineInclude { Element.new .inclusion (controlName includeTag) .null at_ with
        control := control } src := by
    refine ⟨rfl, rfl, rfl, rfl, rfl, hc, ?_, hr, hx⟩
    unfold isInline
    dsimp only
    rw [hi]
    decide
  have started (control : Entries String)
      (h : ∀ w, (m.tag.attributes.foldlM (Attributed.add c m.tag.namespaceUri)
        ⟨.new .inclusion (controlName includeTag) .null at_, []⟩).runIn w =
          (.ok ⟨{ Element.new .inclusion (controlName includeTag) .null at_ with
            control := control }, []⟩, w)) (nested : Option NestedLoad) (w : World) :=
    @openElement_of_inclusion l c nested _ _ _ _ _ _ _ _ (classified w) rfl (h w)
  rcases hm.attributes with ha | ha
  · exact ⟨_, element _ rfl rfl rfl rfl,
      started ((Entries.empty.insert srcAttribute src).insert inlineAttribute "true") fun w => by
        rw [ha]
        rfl⟩
  · exact ⟨_, element _ rfl rfl rfl rfl,
      started ((Entries.empty.insert inlineAttribute "true").insert srcAttribute src) fun w => by
        rw [ha]
        rfl⟩

/-- What is recorded of an inline include. -/
def inclusionRecord (u : Url) : String :=
  let manner := "inline"
  s!"Including {u.text} ({manner})"

/-- Where an inline include asks for a document: what loads it, the including document and its
world, and how deep documents may be included in the one that it asks for. -/
structure Site where
  loader : Loader
  context : DocumentContext
  draft : Draft
  world : World
  /-- The location of the document that is asked for. -/
  url : Url
  depth : Nat

/-- A document with other open elements. -/
def Draft.withStack (d : Draft) (stack : List Element) : Draft := { d with stack := stack }

/-- A document with one more open element. -/
def Draft.withElement (d : Draft) (e : Element) : Draft := d.withStack (e :: d.stack)

namespace Site

variable (X : Site)

/-- What the document that is asked for knows of its surroundings. -/
def inner : DocumentContext :=
  ⟨some X.url, X.context.table, X.context.bundle, X.context.depth + 1,
    X.draft.held X.context [.null]⟩

/-- The world when the document that is asked for is about to take its first event. -/
def start : World :=
  X.inner.announce (X.world.log .debug (inclusionRecord X.url))

/-- What becomes of the document that is asked for when it takes some events. -/
def taken (items : List Xml.Located) : Except LoadError Draft × World :=
  (takeEvents X.loader X.inner (X.loader.deeper X.depth) (.start X.draft.parented) items).runIn
    X.start

/-- The including document once the other one has given parents to some objects. -/
def resumed (parented : List ObjectId) : Draft :=
  { X.draft.settleLanguage X.loader with parented := parented }

theorem agrees_start : X.world.Agrees X.start := ⟨rfl, rfl⟩

end Site

theorem Loader.deeper_succ (l : Loader) (n : Nat) :
    l.deeper (n + 1) = some (loadWith l (l.deeper n)) := by
  cases n <;> rfl

theorem prepareInclusion_of_inline {e : Element} {src s : String} {u : Url} {n : NestedLoad}
    (he : e.IsInlineInclude src) (hi : (includeSource c src).runIn w = (.ok s, w))
    (hu : l.sourceUrl c s = .ok u) :
    (prepareInclusion l c (some n) d e).runIn w =
      (.ok (n, ⟨u, l.charset, ⟨some u, c.table, c.bundle, c.depth + 1, d.held c [.null]⟩⟩),
        w.log .debug (inclusionRecord u)) := by
  have held : e.heldValues = [.null] := by
    rw [Element.heldValues, he.value, he.attributes]
    rfl
  unfold prepareInclusion includeBundle includeCharset includeTable
  rw [he.source, he.resources, he.charset, he.shares, held, orFail_some, pure_bind,
    Op.bind_runIn_of_ok hi, hu]
  rfl

/-- An included document that succeeds gives its root. -/
theorem Inclusion.load_of_ok {i : Inclusion} {n : NestedLoad} {parented parented' : List ObjectId}
    {source : String} {outcome : Outcome} (hs : l.readText i.url i.charset = .ok source)
    (h : (n i.context parented source).runIn w = (.ok (outcome, parented'), v)) :
    (i.load l n parented).runIn w = (.ok (outcome.root, parented'), v) := by
  unfold Inclusion.load
  rw [Op.mapError_runIn_eq_ok, Op.bind_runIn_of_ok (Op.ofExcept_runIn_eq_ok.2 ⟨hs, rfl⟩),
    Op.bind_runIn_of_ok h]
  rfl

theorem loadWith_runIn {nested : Option NestedLoad} (parented : List ObjectId) (source : String) :
    (loadWith l nested c parented source).runIn w =
      (takeEvents l c nested (.start parented) (Xml.events source).items >>=
        (Draft.complete l c (Xml.events source) ·)).runIn (c.announce w) := by
  unfold loadWith
  rw [Op.bind_runIn_of_ok (Op.change_runIn _ _)]

/-- A document without bindings, on the root of which nothing is to be run, is complete. -/
theorem Draft.complete_of_root {es : Xml.Events} (hf : es.fault = none) (hs : d.stack = [])
    {root : Value} (hroot : d.root = some root) (hb : d.bindings = []) {z : World}
    (hc : (completeRoot l c ((c.held.keep (root :: d.parented.map .object)).keepTable c.table)
      root).runIn v = (.ok (), z)) (hz : v.Agrees z) :
    ∃ u, v.Agrees u ∧
      (d.complete l c es).runIn v = (.ok (⟨root, c.table, c.location⟩, d.parented), u) := by
  refine ⟨_, hz.trans (.log z .debug s!"Loaded {c.name}: {(z.table c.table).size} id(s) in scope"), ?_⟩
  unfold Draft.complete reportFault Draft.finish
  rw [hf, hs, hroot, hb]
  dsimp only
  rw [pure_bind, pure_bind, Op.bind_runIn_of_ok (show (Op.onError (applyBindings l c _ _ []) _).runIn
    v = (.ok (), v) from rfl), Op.bind_runIn_of_ok hc]
  rfl

namespace Site

variable {X : Site} {m : Xml.Markup} {src s source : String}

/-- An element that includes a document at a site: it is inside another one, and its source is the
URL of the site, where there is a text. -/
structure Includes (X : Site) (m : Xml.Markup) (source : String) : Prop where
  inside : X.draft.stack ≠ []
  found : ∃ src s, m.IsInlineInclude src ∧
    (includeSource X.context src).runIn X.world = (.ok s, X.world) ∧
    X.loader.sourceUrl X.context s = .ok X.url
  text : X.loader.readText X.url X.loader.charset = .ok source

/-- Where nothing can be included any more, the include fails. -/
theorem openElement_of_tooDeep (h : X.Includes m source) (at_ : Location) :
    ∃ src limit at_', (X.draft.openElement X.loader X.context none m.tag at_).runIn X.world =
      (.error (.structural (.tooDeep src limit) at_'), X.world) := by
  obtain ⟨src, s, hm, hi, hu⟩ := h.found
  obtain ⟨e, he, opened⟩ := Draft.openElement_of_inline (l := X.loader) (c := X.context) hm h.inside
    at_
  obtain ⟨src', hp⟩ := Twins.prepareInclusion_none (d := X.draft.settleLanguage X.loader)
    (Twins.includeUrl_runIn_eq_ok.2 ⟨src, s, he.source, hi, hu⟩)
  refine ⟨src', X.loader.maxDepth, e.location, ?_⟩
  rw [opened]
  unfold loadInclude
  rw [bind_assoc]
  exact Op.bind_runIn_of_error hp

/-- If the document that is asked for fails, the include fails. -/
theorem openElement_of_error (h : X.Includes m source) {e : LoadError}
    (hx : X.taken (Xml.events source).items = (.error e, v)) (at_ : Location) :
    (X.draft.openElement X.loader X.context (X.loader.deeper (X.depth + 1)) m.tag at_).runIn
      X.world = (.error (.included X.url e), v) := by
  obtain ⟨src, s, hm, hi, hu⟩ := h.found
  obtain ⟨inclusion, he, opened⟩ := Draft.openElement_of_inline (l := X.loader) (c := X.context) hm
    h.inside at_
  rw [opened, Loader.deeper_succ]
  unfold loadInclude
  rw [bind_assoc, Op.bind_runIn_of_ok (prepareInclusion_of_inline he hi hu), bind_assoc]
  refine Op.bind_runIn_of_error (Inclusion.load_of_error h.text ?_)
  rw [loadWith_runIn]
  exact Op.bind_runIn_of_error hx

/-- Whether nothing is to be run on the root of the document that is asked for. -/
def Initializes (X : Site) (items : List Xml.Located) : Prop :=
  ∀ d v root, X.taken items = (.ok d, v) → d.root = some root →
    ∃ z, (completeRoot X.loader X.inner ((X.inner.held.keep
      (root :: d.parented.map .object)).keepTable X.inner.table) root).runIn v = (.ok (), z) ∧
      v.Agrees z

/-- If the document that is asked for has a root on which nothing is to be run, and no bindings, the
include is put on the stack with that root. -/
theorem openElement_of_ok (h : X.Includes m source)
    (hc : X.Initializes (Xml.events source).items) (hf : (Xml.events source).fault = none)
    (hx : X.taken (Xml.events source).items = (.ok d, v)) (hs : d.stack = []) {root : Value}
    (hroot : d.root = some root) (hb : d.bindings = []) (at_ : Location) :
    ∃ (e : Element) (src : String) (u : World), e.IsInlineInclude src ∧ v.Agrees u ∧
      (X.draft.openElement X.loader X.context (X.loader.deeper (X.depth + 1)) m.tag at_).runIn
        X.world = (.ok ((X.resumed d.parented).withElement { e with value := root }), u) := by
  obtain ⟨src, s, hm, hi, hu⟩ := h.found
  obtain ⟨inclusion, he, opened⟩ := Draft.openElement_of_inline (l := X.loader) (c := X.context) hm
    h.inside at_
  obtain ⟨z, hc, hz⟩ := hc d v root hx hroot
  obtain ⟨u, hvu, completed⟩ := Draft.complete_of_root hf hs hroot hb hc hz
  have loaded : (Inclusion.load ⟨X.url, X.loader.charset, X.inner⟩ X.loader
      (loadWith X.loader (X.loader.deeper X.depth)) X.draft.parented).runIn
        (X.world.log .debug (inclusionRecord X.url)) = (.ok (root, d.parented), u) := by
    have nested : (loadWith X.loader (X.loader.deeper X.depth) X.inner X.draft.parented source).runIn
        (X.world.log .debug (inclusionRecord X.url)) =
          (.ok (⟨root, X.inner.table, X.inner.location⟩, d.parented), u) := by
      rw [loadWith_runIn]
      exact (Op.bind_runIn_of_ok hx).trans completed
    exact Inclusion.load_of_ok (i := ⟨X.url, X.loader.charset, X.inner⟩) h.text nested
  refine ⟨inclusion, src, u, he, hvu, ?_⟩
  rw [opened, Loader.deeper_succ]
  unfold loadInclude
  rw [bind_assoc, Op.bind_runIn_of_ok (prepareInclusion_of_inline he hi hu), bind_assoc]
  refine (Op.bind_runIn_of_ok loaded).trans ?_
  simp only [pure_bind, Draft.push, pendingBindings, List.isEmpty_nil, if_true, List.append_nil]
  rfl

end Site

/-! ## Ends of elements -/

/-- Applies what is attached to an element and registers its id. -/
def applyAttachments (l : Loader) (c : DocumentContext) (h : Held) (language : String)
    (e : Element) : Op LoadError Unit := do
  applyAttachedAttributes l c h language e
  registerId l c h e

/-- Hands over the value of an element first, and then applies what is attached to it. -/
def composeFirst (l : Loader) (c : DocumentContext) (d : Draft) (e : Element) :
    Op LoadError Draft := do
  let d' ← compose l c d e
  applyAttachments l c (d'.held c e.heldValues) (d.languageIn l) e
  return d'

/-- Applies what is attached to an element first, and then hands over its value. -/
def composeLast (l : Loader) (c : DocumentContext) (d : Draft) (e : Element) :
    Op LoadError Draft := do
  applyAttachments l c (d.held c e.heldValues) (d.languageIn l) e
  compose l c d { e with attributes := .empty }

/-- The outermost element is handed to nobody. -/
theorem composeFirst_of_nil {e : Element} (hs : d.stack = []) :
    composeFirst l c d e = do
      applyAttachments l c (d.held c e.heldValues) (d.languageIn l) e
      return d := by
  have alone : compose l c d e = pure d := by
    unfold compose
    rw [hs]
    rfl
  unfold composeFirst
  rw [alone, pure_bind]

/-- Handing over a value ends no element. -/
theorem composeFirst_shape {e : Element} (h : (composeFirst l c d e).runIn w = (.ok d', v)) :
    d'.stack.isEmpty = d.stack.isEmpty := by
  simp only [composeFirst, Op.bind_runIn_eq_ok] at h
  obtain ⟨a, _, ha, _, _, -, h⟩ := h
  cases h
  exact Draft.isEmpty_stack_of_kinds (compose_shape ha).1

/-- The end of an instance. -/
theorem Draft.closeElement_of_instance {e : Element} {outer : List Element}
    (hs : d.stack = e :: outer) (hk : e.kind = .instanceOf) (at_ : Location) :
    d.closeElement l c at_ = do
      applyAttributes l ((d.withStack outer).held c e.heldValues) e
      let d' ← composeFirst l c (d.withStack outer) e
      return if d'.stack.isEmpty then { d' with root := some e.value } else d' := by
  unfold Draft.closeElement composeFirst applyAttachments
  rw [hs]
  dsimp only
  rw [closeAs_of_isComposed (by rw [hk]; rfl)]
  simp only [bind_assoc, pure_bind]
  rfl

/-- A result that a last step leaves as it is. -/
theorem Op.bind_pure_of_ok {ε α : Type} {x : Op ε α} {f : α → α}
    (h : ∀ a u, x.runIn w = (.ok a, u) → f a = a) :
    (x >>= fun a => pure (f a)).runIn w = x.runIn w := by
  rw [Op.bind_runIn]
  cases hx : x.runIn w with
  | mk r u =>
    cases r with
    | error e => rfl
    | ok a => exact congrArg (fun a => (Except.ok a, u)) (h a u hx)

/-- The end of an inline include hands over the root of its document. -/
theorem Draft.closeElement_of_inline {e : Element} {src : String} (he : e.IsInlineInclude src)
    (root : Value) (hd : d.stack ≠ []) (at_ : Location) :
    ((d.withElement { e with value := root }).closeElement l c at_).runIn w =
      (compose l c d { e with value := root }).runIn w := by
  have closed : closeAs l c d { e with value := root } = compose l c d { e with value := root } := by
    rw [closeAs_of_isComposed (by rw [he.kind]; rfl)]
    unfold applyAttributes applyAttachedAttributes
    have empty : (Entries.empty : Entries Value).isEmpty = true := rfl
    simp only [he.attributes, he.attached, empty, List.isEmpty_nil, if_true, pure_bind, bind_pure]
  unfold Draft.closeElement Draft.withElement Draft.withStack
  dsimp only
  rw [closed]
  unfold registerId
  simp only [he.id, pure_bind]
  refine Op.bind_pure_of_ok fun a u ha => if_neg ?_
  rw [Draft.isEmpty_stack_of_kinds (compose_shape ha).1, List.isEmpty_iff]
  exact hd

/-! ## Whole includes -/

namespace Site

variable {X : Site} {m : Xml.Markup} {source : String}

theorem takeEvents_inclusion (h : X.Includes m source) (nested : Option NestedLoad) :
    takeEvents X.loader X.context nested X.draft m.items =
      (X.draft.openElement X.loader X.context nested m.tag m.opening.location).onError
          (reportFailure X.context m.opening.seen) >>= fun d =>
        (d.closeElement X.loader X.context m.closing.location).onError
          (reportFailure X.context m.closing.seen) := by
  obtain ⟨src, s, hm, -⟩ := h.found
  rw [Xml.Markup.items, hm.content, List.nil_append, ← List.singleton_append, takeEvents_append,
    takeEvents_singleton]
  unfold Draft.step
  rw [m.opening_event]
  refine congrArg _ (funext fun d => ?_)
  rw [takeEvents_singleton]
  unfold Draft.step
  rw [m.closing_event]

/-- Where nothing can be included any more, the including document fails. -/
theorem takeEvents_inclusion_of_tooDeep (h : X.Includes m source) :
    ∃ src limit at_ u, (takeEvents X.loader X.context none X.draft m.items).runIn X.world =
      (.error (.structural (.tooDeep src limit) at_), u) := by
  obtain ⟨src, limit, at_, opened⟩ := openElement_of_tooDeep h m.opening.location
  rw [takeEvents_inclusion h]
  exact ⟨src, limit, at_, _, Op.bind_runIn_of_error (Op.onError_runIn_of_error opened)⟩

/-- If the document that is asked for fails, the including one fails. -/
theorem takeEvents_inclusion_of_error (h : X.Includes m source) {e : LoadError}
    (hx : X.taken (Xml.events source).items = (.error e, v)) :
    ∃ u, (takeEvents X.loader X.context (X.loader.deeper (X.depth + 1)) X.draft m.items).runIn
      X.world = (.error (.included X.url e), u) := by
  have opened := openElement_of_error h hx m.opening.location
  rw [takeEvents_inclusion h]
  exact ⟨_, Op.bind_runIn_of_error (Op.onError_runIn_of_error opened)⟩

/-- If the document that is asked for has a root on which nothing is to be run, and no bindings, the
include comes to handing over that root. -/
theorem takeEvents_inclusion_of_ok (h : X.Includes m source)
    (hc : X.Initializes (Xml.events source).items) (hf : (Xml.events source).fault = none)
    (hx : X.taken (Xml.events source).items = (.ok d, v)) (hs : d.stack = []) {root : Value}
    (hroot : d.root = some root) (hb : d.bindings = []) :
    ∃ (e : Element) (src : String) (u : World), e.IsInlineInclude src ∧ v.Agrees u ∧
      (takeEvents X.loader X.context (X.loader.deeper (X.depth + 1)) X.draft m.items).runIn X.world =
        ((compose X.loader X.context (X.resumed d.parented) { e with value := root }).onError
          (reportFailure X.context m.closing.seen)).runIn u := by
  obtain ⟨e, src, u, he, hvu, opened⟩ :=
    openElement_of_ok h hc hf hx hs hroot hb m.opening.location
  refine ⟨e, src, u, he, hvu, ?_⟩
  rw [takeEvents_inclusion h, Op.bind_runIn_of_ok (Op.onError_runIn_eq_ok.2 opened),
    Op.onError_runIn, Op.onError_runIn,
    Draft.closeElement_of_inline (d := X.resumed d.parented) he root h.inside]

end Site

end Bxml
