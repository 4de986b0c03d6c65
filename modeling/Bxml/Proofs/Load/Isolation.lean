import Bxml.Proofs.Twins.Loading

/-!
# Isolated includes

An include that is not inline gives its document ids of its own.  Two documents that ask for the
same document in this way get the same, whatever else they consist of, and neither of them is
changed.  What they have in common are the bundles and what these lead to; everything else that
the included document can reach is made for it.

`Twins.loadInclude_isolated` is the result.  It compares two runs by the relations of the modules
under `Twins/`: `SameRequest` says that two documents ask for the same, and from there on
corresponding steps do the same, by induction on the depth (`Uniform.loadNested`).  `Undisturbed` is
the other half: nothing of an including document changes but which objects have parents.

A document that may not be included any deeper fails with the source as its document has written it,
and two documents may write the same URL differently; `tooDeep_in_own_words` is such a case.
`IsStateless` is what is asked of hosts and factories, and `Loader.isStateless_of_plain` says that
documents which are only looked at have it.
-/

namespace Bxml

/-- The loads of documents that are included at most `n` deep. -/
def Loader.deeper (l : Loader) : Nat → Option NestedLoad
  | 0 => none
  | n + 1 => some (loadNested l n)

/-- Loads the document that an include element asks for. Gives its root; the including document is
told which objects have a parent now. -/
def loadInclude (l : Loader) (c : DocumentContext) (nested : Option NestedLoad) (d : Draft)
    (e : Element) : Op LoadError (Value × Draft) := do
  let (nested, i) ← prepareInclusion l c nested d e
  let (v, parented) ← i.load l nested d.parented
  return (v, { d with parented := parented })

/-- The start of an include element: once its attributes are taken, its document is loaded, and the
element is put on the stack with the root of it. -/
theorem Draft.openElement_of_inclusion {l : Loader} {c : DocumentContext}
    {nested : Option NestedLoad} {d : Draft} {tag : Xml.StartTag} {at_ : Location}
    {found : Classified} {x : Attributed} {w u v : World}
    (hf : (classify l d.stack tag at_).runIn w = (.ok found, u)) (hk : found.kind = .inclusion)
    (hx : (tag.attributes.foldlM (Attributed.add c tag.namespaceUri)
      ⟨.new found.kind found.name found.value at_, []⟩).runIn u = (.ok x, v)) :
    (d.openElement l c nested tag at_).runIn w =
      (do
        let (root, d) ← loadInclude l c nested (d.settleLanguage l) x.element
        d.push x root d.parented).runIn v := by
  have started : (startElement l c nested (d.settleLanguage l) tag at_).runIn w =
      (do
        let (nested, i) ← prepareInclusion l c nested (d.settleLanguage l) x.element
        return (x, Origin.inclusion nested i)).runIn v := by
    unfold startElement
    rw [show (d.settleLanguage l).stack = d.stack from rfl, Op.bind_runIn_of_ok hf,
      Op.bind_runIn_of_ok hx, hk]
  unfold Draft.openElement loadInclude
  dsimp only
  rw [Op.bind_runIn, started, bind_assoc, Op.bind_runIn, Op.bind_runIn]
  rcases (prepareInclusion l c nested (d.settleLanguage l) x.element).runIn v with ⟨_ | ⟨n, i⟩, y⟩
  · rfl
  · simp only [Op.pure_runIn, bind_assoc, pure_bind]
    rfl

/-- The URL that an include element asks for. -/
def includeUrl (l : Loader) (c : DocumentContext) (e : Element) : Op LoadError Url := do
  let src ← orFail e.location (.missingAttribute srcAttribute includeTag)
    (e.control.get? srcAttribute)
  let src ← includeSource c src
  Op.ofExcept (l.sourceUrl c src)

/-- Whether all that is held exists. -/
structure World.Covers (w : World) (h : Held) : Prop where
  values : ∀ {o}, .object o ∈ h.values → o.index < w.objects.size
  tables : ∀ {t}, t ∈ h.tables → t.index < w.tables.size

/-- Whether what a loader needs from outside depends on nothing but what it is given: it does the
same in all worlds that are surroundings of the same load. -/
def Loader.IsStateless (l : Loader) : Prop := ∀ S : Twins, S.Uniform l

/-- Failures are the same if they are equal. Where no document can be included any more, each
failure names the source as its own document gives it. -/
def Failing.upToSource : Failing LoadError where
  same e e' := e = e' ∨ ∃ src src' limit at_, e = .structural (.tooDeep src limit) at_ ∧
    e' = .structural (.tooDeep src' limit) at_
  lost _ := False
  refl _ := .inl rfl

namespace Twins

/-- Whether two documents ask for the same document by an include that is not inline. They know the
same bundles; what these lead to is in the same state on both sides, has a parent on both sides or
on neither, and is held or not on both sides alike. Nothing is said of anything else that the
documents consist of. -/
structure SameRequest (S : Twins) (l : Loader) (c c' : DocumentContext) (d d' : Draft)
    (e e' : Element) : Prop where
  control : e.control = e'.control
  location : e.location = e'.location
  isolated : isInline e = false
  url : ∃ u, (includeUrl l c e).runIn S.left = (.ok u, S.left) ∧
    (includeUrl l c' e').runIn S.right = (.ok u, S.right)
  bundle : Option.Rel S.SameBundle c.bundle c'.bundle
  left_covers : S.left.Covers (d.held c e.heldValues)
  right_covers : S.right.Covers (d'.held c' e'.heldValues)
  shared_state : ∀ {o p}, S.shared o p → S.SameState (S.left.object o) (S.right.object p)
  shared_held : ∀ {o p}, S.shared o p →
    (.object o ∈ (d.held c e.heldValues).values ↔ .object p ∈ (d'.held c' e'.heldValues).values) ∧
      (.object o ∈ (d.held c e.heldValues).values ∨ S.Enclosed o p)
  shared_parented : ∀ {o p}, S.shared o p → (o ∈ d.parented ↔ p ∈ d'.parented)

/-- Whether a load that began in `w` leaves a document and all that was there unchanged, apart from
certain objects. Only which objects have a parent may be news to the document. -/
structure Undisturbed (w : World) (d : Draft) (apart : ObjectId → Prop)
    (r : Except LoadError (Value × Draft) × World) : Prop where
  tables : ∀ t : TableId, t.index < w.tables.size → r.2.table t = w.table t
  objects : ∀ o : ObjectId, o.index < w.objects.size → ¬ apart o → r.2.object o = w.object o
  draft : ∀ v d', r.1 = .ok (v, d') → d'.stack = d.stack ∧ d'.root = d.root ∧
    d'.language = d.language ∧ d'.bindings = d.bindings

variable {S : Twins} {l : Loader} {c c' : DocumentContext} {d d' : Draft} {e e' : Element}

/-- At the beginning both worlds are the same if what is shared is in the same state. -/
theorem sameWorld_start
    (h : ∀ {o p}, S.shared o p → S.SameState (S.left.object o) (S.right.object p)) :
    S.SameWorld S.left S.right where
  size := ⟨0, rfl, rfl⟩
  tablesSize := ⟨0, rfl, rfl⟩
  object ho := by
    cases ho with
    | shared ho => exact h ho
    | made k =>
      unfold World.object
      rw [Array.getD_eq_getD_getElem?, Array.getD_eq_getD_getElem?,
        Array.getElem?_eq_none (Nat.le_add_right _ _), Array.getElem?_eq_none (Nat.le_add_right _ _)]
      exact .emptyDictionary _
  table ht := by
    cases ht with
    | made k =>
      unfold World.table
      rw [Array.getD_eq_getD_getElem?, Array.getD_eq_getD_getElem?,
        Array.getElem?_eq_none (Nat.le_add_right _ _), Array.getElem?_eq_none (Nat.le_add_right _ _)]
      exact .empty
  left_object _ _ := rfl
  right_object _ _ := rfl
  left_table _ := rfl
  right_table _ := rfl

namespace SameRequest

variable (h : S.SameRequest l c c' d d' e e')

include h

/-- The included document is told of the same objects that are held. -/
theorem held : S.SameHeld (d.held c e.heldValues) (d'.held c' e'.heldValues) where
  values ho := by
    cases ho with
    | shared ho => exact (h.shared_held ho).1
    | made k =>
      exact iff_of_false (fun hm => Nat.not_lt.2 (Nat.le_add_right _ _) (h.left_covers.values hm))
        (fun hm => Nat.not_lt.2 (Nat.le_add_right _ _) (h.right_covers.values hm))
  tables ht := by
    cases ht with
    | made k =>
      exact iff_of_false (fun hm => Nat.not_lt.2 (Nat.le_add_right _ _) (h.left_covers.tables hm))
        (fun hm => Nat.not_lt.2 (Nat.le_add_right _ _) (h.right_covers.tables hm))
  shared ho := (h.shared_held ho).2

/-- None of the objects that the included document makes has a parent before. -/
theorem parented : S.SameMembers d.parented d'.parented := by
  intro o p ho
  cases ho with
  | shared ho => exact h.shared_parented ho
  | made k =>
    have held {d : Draft} {c : DocumentContext} {e : Element} {o : ObjectId} (ho : o ∈ d.parented) :
        .object o ∈ (d.held c e.heldValues).values := by
      simp [Draft.held, Held.keep, Held.keepTable, Draft.heldValues, ho]
    exact iff_of_false
      (fun hm => Nat.not_lt.2 (Nat.le_add_right _ _) (h.left_covers.values (held hm)))
      (fun hm => Nat.not_lt.2 (Nat.le_add_right _ _) (h.right_covers.values (held hm)))

end SameRequest

/-- What an include element says of its source. -/
theorem includeUrl_runIn_eq_ok {w : World} {u : Url} :
    (includeUrl l c e).runIn w = (.ok u, w) ↔
      ∃ s src, e.control.get? srcAttribute = some s ∧
        (includeSource c s).runIn w = (.ok src, w) ∧ l.sourceUrl c src = .ok u := by
  unfold includeUrl
  cases hs : e.control.get? srcAttribute with
  | none =>
    rw [orFail_none, Op.bind_runIn_of_error (failAt_runIn _ _ _)]
    simp
  | some s =>
    rw [orFail_some, pure_bind, Op.bind_runIn_eq_ok]
    constructor
    · rintro ⟨src, v, hi, hu⟩
      obtain ⟨hu, hv⟩ := Op.ofExcept_runIn_eq_ok.1 hu
      exact ⟨s, src, rfl, hv ▸ hi, hu⟩
    · rintro ⟨s, src, hs, hi, hu⟩
      cases hs
      exact ⟨src, w, hi, Op.ofExcept_runIn_eq_ok.2 ⟨hu, rfl⟩⟩

/-- Both documents go to the same depth and find the same bundle, encoding and URL. -/
theorem SameRequest.prepareInclusion (h : S.SameRequest l c c' d d' e e') {n n' : NestedLoad}
    (hn : S.SameNested .exact n n') :
    S.SameRun (.exact _) (S.SameInclusion .exact)
      ((prepareInclusion l c (some n) d e).runIn S.left)
      ((prepareInclusion l c' (some n') d' e').runIn S.right) := by
  obtain ⟨u, hu, hu'⟩ := h.url
  obtain ⟨s, src, hs, hi, hu⟩ := includeUrl_runIn_eq_ok.1 hu
  obtain ⟨s', src', hs', hi', hu'⟩ := includeUrl_runIn_eq_ok.1 hu'
  have isolated' : isInline e' = false := isInline_same h.control ▸ h.isolated
  unfold Bxml.prepareInclusion
  rw [hs, hs', orFail_some, orFail_some, pure_bind, pure_bind, Op.bind_runIn_of_ok hi,
    Op.bind_runIn_of_ok hi', orFail_some, orFail_some, pure_bind, pure_bind]
  have located : Faults.exact.Located e.location e'.location :=
    h.location ▸ Faults.exact.located_refl _
  refine SameOp.bind (includeBundle_same (F := .exact) h.bundle h.control located) (fun hb => ?_)
    _ _ (sameWorld_start h.shared_state)
  refine .bind (includeCharset_same h.control) fun hx => ?_
  unfold includeTable
  rw [h.isolated, isolated', hu, hu']
  refine .bind (R := S.SameTable) (.make fun hw => hw.allocTable) fun ht => ?_
  refine .bind (.ofExceptSame (.ok u)) fun {u₁ u₂} hu => ?_
  obtain rfl := hu
  refine .bind (.log _ _ _ _) fun _ => .pure ⟨hn, rfl, hx, ⟨ht, hb, ?_⟩, rfl⟩
  exact h.held.keepTable ht

/-- Nothing is included any deeper. -/
theorem prepareInclusion_none {w : World} {u : Url}
    (h : (includeUrl l c e).runIn w = (.ok u, w)) :
    ∃ src, (prepareInclusion l c (none : Option NestedLoad) d e).runIn w =
      (.error (.structural (.tooDeep src l.maxDepth) e.location), w) := by
  obtain ⟨s, src, hs, hi, -⟩ := includeUrl_runIn_eq_ok.1 h
  refine ⟨src, ?_⟩
  unfold prepareInclusion
  rw [hs, orFail_some, pure_bind, Op.bind_runIn_of_ok hi, orFail_none,
    Op.bind_runIn_of_error (failAt_runIn _ _ _)]

theorem SameRun.upToSource {α β : Type} {R : α → β → Prop} {r : Except LoadError α × World}
    {r' : Except LoadError β × World} (h : S.SameRun (.exact _) R r r') :
    S.SameRun .upToSource R r r' := by
  cases h with
  | ok h hw => exact .ok h hw
  | error h hw => exact .error (.inl h) hw
  | lost h => exact h.elim

/-- The roots that two documents get are the same. -/
theorem SameRequest.loadInclude (h : S.SameRequest l c c' d d' e e') (hu : S.Uniform l) (n : Nat) :
    S.SameRun .upToSource (fun x x' => S.SameValue x.1 x'.1)
      ((loadInclude l c (l.deeper n) d e).runIn S.left)
      ((loadInclude l c' (l.deeper n) d' e').runIn S.right) := by
  unfold Bxml.loadInclude
  cases n with
  | zero =>
    obtain ⟨u, hu, hu'⟩ := h.url
    obtain ⟨src, hp⟩ := prepareInclusion_none (d := d) hu
    obtain ⟨src', hp'⟩ := prepareInclusion_none (d := d') hu'
    rw [Loader.deeper, Op.bind_runIn_of_error hp, Op.bind_runIn_of_error hp', h.location]
    exact .error (.inr ⟨src, src', l.maxDepth, e'.location, rfl, rfl⟩)
      (sameWorld_start h.shared_state)
  | succ n =>
    have nested : S.SameNested .exact (loadNested l n) (loadNested l n) :=
      hu.loadNested (Nat.le_refl n) (.inl rfl)
    refine SameRun.upToSource (SameRun.bind (h.prepareInclusion nested) fun _ hi hw => ?_)
    refine (hi.load h.parented).bind (fun {x x'} hr => ?_) _ _ hw
    exact .pure hr.root

/-- Loading an included document changes nothing of the including one but which objects have a
parent. -/
theorem draft_of_loadInclude {nested : Option NestedLoad} {w u : World} {v : Value} {x : Draft}
    (h : (Bxml.loadInclude l c nested d e).runIn w = (.ok (v, x), u)) :
    x.stack = d.stack ∧ x.root = d.root ∧ x.language = d.language ∧ x.bindings = d.bindings := by
  unfold Bxml.loadInclude at h
  obtain ⟨⟨n, i⟩, _, -, h⟩ := Op.bind_runIn_eq_ok.1 h
  obtain ⟨⟨root, parented⟩, _, -, h⟩ := Op.bind_runIn_eq_ok.1 h
  cases h
  exact ⟨rfl, rfl, rfl, rfl⟩

/-- Two documents that ask for the same document by an include that is not inline, and may still
include documents equally deep, get the same: equal failures, except that where nothing is included
any deeper each names the source as its own document gives it, or roots that correspond, like
everything these lead to. In both documents everything stays as it is. -/
theorem loadInclude_isolated (hl : l.IsStateless) (h : S.SameRequest l c c' d d' e e') (n : Nat) :
    let r := (Bxml.loadInclude l c (l.deeper n) d e).runIn S.left
    let r' := (Bxml.loadInclude l c' (l.deeper n) d' e').runIn S.right
    S.SameRun .upToSource (fun x x' => S.SameValue x.1 x'.1) r r' ∧
      Undisturbed S.left d (fun o => ∃ p, S.shared o p) r ∧
      Undisturbed S.right d' (fun p => ∃ o, S.shared o p) r' := by
  intro r r'
  have same : S.SameRun .upToSource (fun x x' => S.SameValue x.1 x'.1) r r' :=
    h.loadInclude (hl S) n
  have worlds : S.SameWorld r.2 r'.2 := by
    generalize r = r, r' = r' at same
    cases same with
    | ok _ hw => exact hw
    | error _ hw => exact hw
    | lost h => exact h.elim
  refine ⟨same, ?left, ?right⟩
  case left =>
    exact ⟨fun t ht => worlds.left_table ht,
      fun o ho hn => worlds.left_object ho (not_exists.1 hn),
      fun v x hx => draft_of_loadInclude (Prod.ext hx rfl)⟩
  case right =>
    exact ⟨fun t ht => worlds.right_table ht,
      fun o ho hn => worlds.right_object ho (not_exists.1 hn),
      fun v x hx => draft_of_loadInclude (Prod.ext hx rfl)⟩

end Twins

/-! ## Loaders without state -/

theorem Host.plain_uniform (S : Twins) (language : String) : (Host.plain language).Uniform S where
  function h := by cases h
  evaluator h := by cases h
  hook := by
    intros
    exact .pure rfl

/-- Dictionaries are made and written in the same way in all worlds. -/
theorem Twins.Uniform.of_dictionaries {S : Twins} {l : Loader} (hh : l.host.Uniform S)
    (hf : l.factory = .dictionaries l.host) : S.Uniform l where
  host := hh
  construct typeName := by
    rw [hf]
    exact .make fun hw => hw.alloc (.emptyDictionary typeName)
  attach {h h' o p v v'} owner property held ho hv := by
    rw [hf]
    refine .bind (.object ho) fun {x x'} hx => ?_
    obtain ⟨hd, hd'⟩ | ⟨_, _, hd, hd', -⟩ := hx.dictionary?.none_or_some
    · rw [hd, hd']
      exact .throwSame _
    · rw [hd, hd']
      exact .mapSame (hh.setProperty _ held ho hv) _

/-- A loader for documents that are only looked at has no state. -/
theorem Loader.isStateless_of_plain {l : Loader} {language : String}
    (hh : l.host = .plain language) (hf : l.factory = .dictionaries l.host) : l.IsStateless :=
  fun S => .of_dictionaries (hh ▸ Host.plain_uniform S language) hf

theorem World.IsClosed.allocTable {w : World} (h : w.IsClosed) {ids : Entries Value}
    (hi : ∀ p, .object p ∈ ids.values → p.index < w.objects.size) :
    (w.allocTable ids).2.IsClosed where
  objects := h.objects
  tables t p hp := by
    rw [table_allocTable] at hp
    split at hp
    · exact hi p hp
    · exact h.tables t p hp

theorem World.IsClosed.alloc {w : World} (h : w.IsClosed) {x : Object}
    (hx : ∀ p, .object p ∈ x.heldValues → p.index ≤ w.objects.size) : (w.alloc x).2.IsClosed where
  objects o p hp := by
    have size : (w.alloc x).2.objects.size = w.objects.size + 1 := Array.size_push _
    rw [object_alloc] at hp
    rw [size]
    split at hp
    · exact Nat.lt_succ_of_le (hx p hp)
    · exact Nat.lt_succ_of_lt (h.objects o p hp)
  tables t p hp := by
    have size : (w.alloc x).2.objects.size = w.objects.size + 1 := Array.size_push _
    rw [size]
    exact Nat.lt_succ_of_lt (h.tables t p hp)

namespace Twins

/-! ## Two documents that include the same one -/

/-- An include element without further attributes. -/
def includeElement (src : String) : Element :=
  { Element.new .inclusion includeTag .null .none with
    control := Entries.empty.insert srcAttribute src }

/-- An include element in a document that has not begun holds nothing but the ids. -/
theorem covers_start {w : World} (location : Option Url) (depth : Nat) (src : String)
    (h : 0 < w.tables.size) :
    w.Covers ((Draft.start []).held ⟨location, ⟨0⟩, none, depth, .nothing⟩
      (includeElement src).heldValues) where
  values {o} ho := by
    change Value.object o ∈ [Value.null] at ho
    simp at ho
  tables {t} ht := by
    change t ∈ [(⟨0⟩ : TableId)] at ht
    obtain rfl := List.mem_singleton.1 ht
    exact h

/-- A world in which a document has no ids is closed. -/
theorem isClosed_unnamed : (World.empty.allocTable .empty).2.IsClosed := by
  refine World.isClosed_empty.allocTable fun _ hp => ?_
  cases hp

/-- An id that stands for an object that is there keeps a world closed. -/
theorem isClosed_named_object :
    ((World.empty.alloc (.emptyDictionary "A")).2.allocTable
      (Entries.empty.insert "x" (.object ⟨0⟩))).2.IsClosed := by
  have alone : (Entries.empty.insert "x" (Value.object ⟨0⟩)).values = [.object ⟨0⟩] := rfl
  refine World.IsClosed.allocTable (World.isClosed_empty.alloc fun _ hp => ?_) fun p hp => ?_
  · cases hp
  · rw [alone, List.mem_singleton] at hp
    cases hp
    decide

/-- A world in which a document has no ids, beside one with an object and an id for it. -/
def besides : Twins :=
  apart _ _ isClosed_unnamed isClosed_named_object

/-- A document that has not begun, and one with an open element, a binding, a language of its own
and an object that has a parent, include the same document, in which an id is declared that the
second one has. -/
theorem loadInclude_isolated_besides :
    let files := MemoryStore.empty.insert .fileRoot (Url.utf8 "<B bxml:id='x'/>".toList)
    let l : Loader := { Loader.plain with provider := files.provider }
    let c : DocumentContext := ⟨none, ⟨0⟩, none, 0, .nothing⟩
    let c' : DocumentContext := ⟨some .fileRoot, ⟨0⟩, none, 7, .nothing⟩
    let d := Draft.start []
    let d' : Draft := ⟨[.new .instanceOf "A" (.object ⟨0⟩) .none], none, some "other",
      [⟨⟨0⟩, "k", "x", .none⟩], [⟨0⟩]⟩
    let e := includeElement "/"
    let r := (Bxml.loadInclude l c (l.deeper 1) d e).runIn besides.left
    let r' := (Bxml.loadInclude l c' (l.deeper 1) d' e).runIn besides.right
    l.IsStateless ∧ besides.SameRequest l c c' d d' e e ∧ r.1.isOk = true ∧
      besides.SameRun .upToSource (fun x x' => besides.SameValue x.1 x'.1) r r' ∧
      Undisturbed besides.left d (fun o => ∃ p, besides.shared o p) r ∧
      Undisturbed besides.right d' (fun p => ∃ o, besides.shared o p) r' := by
  intro files l c c' d d' e r r'
  have stateless : l.IsStateless := Loader.isStateless_of_plain rfl rfl
  have request : besides.SameRequest l c c' d d' e e := by
    have source (c : DocumentContext) : l.sourceUrl c "/" = .ok .fileRoot := rfl
    have url (c : DocumentContext) (w : World) :
        (includeUrl l c e).runIn w = (.ok .fileRoot, w) :=
      includeUrl_runIn_eq_ok.2 ⟨"/", "/", rfl, rfl, source c⟩
    have covers : besides.right.Covers (d'.held c' e.heldValues) := by
      refine ⟨fun {o} ho => ?_, fun {t} ht => ?_⟩
      · change Value.object o ∈ [.object ⟨0⟩, .object ⟨0⟩, .object ⟨0⟩, .null] at ho
        obtain rfl : o = ⟨0⟩ := by simpa using ho
        decide
      · change t ∈ [(⟨0⟩ : TableId)] at ht
        obtain rfl := List.mem_singleton.1 ht
        decide
    exact ⟨rfl, rfl, rfl, ⟨_, url c _, url c' _⟩, .none, covers_start _ _ _ (by decide), covers,
      nofun, nofun, nofun⟩
  have loaded : r.1.isOk = true := by decide +kernel
  exact ⟨stateless, request, loaded, loadInclude_isolated stateless request 1⟩

/-- An id that stands for a text keeps a world closed. -/
theorem isClosed_named_text (text : String) :
    (World.empty.allocTable (Entries.empty.insert "x" (.string text))).2.IsClosed := by
  have alone : (Entries.empty.insert "x" (Value.string text)).values = [.string text] := rfl
  refine World.isClosed_empty.allocTable fun p hp => ?_
  rw [alone, List.mem_singleton] at hp
  cases hp

/-- Two worlds in which an id stands for the same source in different words. -/
def named : Twins :=
  apart _ _ (isClosed_named_text "a") (isClosed_named_text "/a")

/-- Two documents that give an include the same URL in different words, where nothing may be
included any more, do not get equal failures. -/
theorem tooDeep_in_own_words :
    let l : Loader := { Loader.plain with maxDepth := 0 }
    let c : DocumentContext := ⟨some .fileRoot, ⟨0⟩, none, 0, .nothing⟩
    let d := Draft.start []
    let e := includeElement "$x"
    let r := (Bxml.loadInclude l c (l.deeper 0) d e).runIn named.left
    let r' := (Bxml.loadInclude l c (l.deeper 0) d e).runIn named.right
    l.IsStateless ∧ named.SameRequest l c c d d e e ∧
      r.1 = .error (.structural (.tooDeep "a" 0) .none) ∧
      r'.1 = .error (.structural (.tooDeep "/a" 0) .none) ∧
      ¬ named.SameRun (.exact _) (fun x x' => named.SameValue x.1 x'.1) r r' := by
  intro l c d e r r'
  have left : (includeSource c "$x").runIn named.left = (.ok "a", named.left) := rfl
  have right : (includeSource c "$x").runIn named.right = (.ok "/a", named.right) := rfl
  have hr : r.1 = .error (.structural (.tooDeep "a" 0) .none) := rfl
  have hr' : r'.1 = .error (.structural (.tooDeep "/a" 0) .none) := rfl
  refine ⟨Loader.isStateless_of_plain rfl rfl, ?request, hr, hr', fun h => ?apart⟩
  case request =>
    obtain ⟨u, hu, hu'⟩ : ∃ u, l.sourceUrl c "a" = .ok u ∧ l.sourceUrl c "/a" = .ok u :=
      ⟨_, rfl, rfl⟩
    have url {w : World} {src : String} (hi : (includeSource c "$x").runIn w = (.ok src, w))
        (hs : l.sourceUrl c src = .ok u) : (includeUrl l c e).runIn w = (.ok u, w) :=
      includeUrl_runIn_eq_ok.2 ⟨"$x", src, rfl, hi, hs⟩
    exact ⟨rfl, rfl, rfl, ⟨u, url left hu, url right hu'⟩, .none,
      covers_start _ _ _ (by decide), covers_start _ _ _ (by decide), nofun, nofun, nofun⟩
  case apart =>
    generalize r = r, r' = r' at h hr hr'
    cases h with
    | ok => cases hr
    | error h =>
      have h := hr.symm.trans ((congrArg Except.error h).trans hr')
      simp at h
    | lost h => exact h.elim

end Twins

end Bxml
