import Bxml.Proofs.Load.Internal

/-!
# Chains of included documents

A document is read and then loaded, and it comes to a moment of its own when it has taken all events
before.  At some moments it includes another document, which is loaded in the same way.  So each
document of a load is at the end of a chain of included documents that begins with the outermost one.

* `Loading` is the load of one document, `Loading.ComesTo` the moments it comes to,
  `Moment.Includes` the load that begins at a moment, and `Leads` the chain, with the locations on
  the way.
* `Loading.result_eq_error` says where a load fails: in reading, at one of its moments, or when all
  events are taken.
* `Moment.Includes.result_of_error` and `Moment.Includes.load_eq_error` pass the failure of an
  included document on, wrapped.
* `Loader.loadText_runIn` and `Loader.loadUrl_runIn` begin the chain.

Statements about all documents of a load are inductions over `Leads`: `Load/Provenance.lean`,
`Load/Depth.lean`, `Load/Reports.lean` and `Load/Resources.lean`.
-/

namespace Bxml

/-- Where the text of a document comes from. -/
inductive Source
  | text (s : String)
  | resource (u : Url) (e : Encoding)

/-- The text of a document, or why it cannot be had. -/
def Source.read (l : Loader) : Source → Except LoadError String
  | .text s => .ok s
  | .resource u e => l.readText u e

/-- The load of a document. -/
structure Loading where
  /-- How deep documents may be included in this one. -/
  depth : Nat
  context : DocumentContext
  parented : List ObjectId
  source : Source
  world : World

namespace Loading

variable (l : Loader) (D : Loading)

/-- What a load comes to. -/
def result : Except LoadError (Outcome × List ObjectId) × World :=
  Op.runIn (do loadNested l D.depth D.context D.parented (← Op.ofExcept (D.source.read l))) D.world

/-- What becomes of the document when it takes some events. -/
def taken (items : List Xml.Located) : Except LoadError Draft × World :=
  (takeEvents l D.context (l.deeper D.depth) (.start D.parented) items).runIn
    (D.context.announce D.world)

/-- Whether a document comes to a moment: it has taken the events before. -/
structure ComesTo (m : Moment) : Prop where
  context : m.context = D.context
  nested : m.nested = l.deeper D.depth
  taken : ∃ source before after, D.source.read l = .ok source ∧
    (Xml.events source).items = before ++ m.event :: after ∧
    D.taken l before = (.ok m.draft, m.world)

/-- What the load comes to for those who asked for the document. -/
def outcome : Except LoadError Outcome × World := ((D.result l).1.map (·.1), (D.result l).2)

end Loading

/-- Whether the event of a moment includes the document at a location, which is then loaded. -/
structure Moment.Includes (l : Loader) (m : Moment) (u : Url) (D : Loading) : Prop where
  included : ∃ i, m.included? l = some (loadNested l D.depth, i, D.world) ∧ i.url = u ∧
    i.context = D.context ∧ .resource i.url i.charset = D.source
  parented : m.draft.parented = D.parented
  below : m.nested = l.deeper (D.depth + 1)

/-- A chain of included documents leads from a document to another one; it consists of the locations
of the included ones. -/
inductive Leads (l : Loader) : Loading → List Url → Loading → Prop
  | refl (D : Loading) : Leads l D [] D
  | step {D D' D'' : Loading} {m : Moment} {u : Url} {us : List Url} : D.ComesTo l m →
      D.depth = D'.depth + 1 → m.Includes l u D' → Leads l D' us D'' → Leads l D (u :: us) D''

variable {l : Loader} {D D' : Loading} {m : Moment} {u : Url}

/-! ## Loads of included documents -/

theorem Loading.result_of_read {source : String} (h : D.source.read l = .ok source) :
    D.result l = (loadNested l D.depth D.context D.parented source).runIn D.world := by
  unfold result
  rw [h]
  rfl

theorem Loading.result_of_unread {e : LoadError} (h : D.source.read l = .error e) :
    D.result l = (.error e, D.world) := by
  unfold result
  rw [h]
  rfl

/-- An event includes a document by the load of it. -/
theorem Loading.ComesTo.includes (h : D.ComesTo l m) {n : NestedLoad} {i : Inclusion} {w : World}
    (hi : m.included? l = some (n, i, w)) : ∃ D', m.Includes l i.url D' ∧ D.depth = D'.depth + 1 ∧
      n = loadNested l D'.depth ∧ w = D'.world := by
  have deeper := (Moment.nested_of_included hi).symm.trans h.nested
  cases hd : D.depth with
  | zero =>
    rw [hd] at deeper
    cases deeper
  | succ k =>
    rw [hd] at deeper
    cases deeper
    refine ⟨⟨k, i.context, m.draft.parented, .resource i.url i.charset, w⟩, ?_, rfl, rfl, rfl⟩
    exact ⟨⟨i, hi, rfl, rfl, rfl⟩, rfl, h.nested.trans (congrArg l.deeper hd)⟩

namespace Moment.Includes

variable (h : m.Includes l u D)

include h

/-- The load of an included document fails as the document does, with its location. -/
theorem load_eq_error {n : NestedLoad} {i : Inclusion} {w v : World} {f : LoadError}
    (hi : m.included? l = some (n, i, w)) :
    (i.load l n m.draft.parented).runIn w = (.error f, v) ↔
      ∃ e, D.result l = (.error e, v) ∧ f = .included u e := by
  obtain ⟨j, hj, rfl, hc, hs⟩ := h.included
  rw [hi] at hj
  cases hj
  unfold Inclusion.load
  rw [h.parented, hc]
  cases hr : l.readText i.url i.charset with
  | error e =>
    have read : D.source.read l = .error e := by
      rw [← hs]
      exact hr
    rw [Loading.result_of_unread read]
    change (Except.error (LoadError.included i.url e), D.world) = (.error f, v) ↔ _
    constructor
    · rintro ⟨⟩
      exact ⟨e, rfl, rfl⟩
    · rintro ⟨_, ⟨⟩, rfl⟩
      rfl
  | ok source =>
    have read : D.source.read l = .ok source := by
      rw [← hs]
      exact hr
    rw [Loading.result_of_read read]
    constructor
    · intro hf
      obtain ⟨e, he, rfl⟩ := Op.mapError_runIn_eq_error hf
      rw [Op.bind_runIn_of_ok (Op.ofExcept_runIn _ _)] at he
      rcases Op.bind_runIn_eq_error.1 he with he | ⟨_, _, -, he⟩
      · exact ⟨e, he, rfl⟩
      · cases he
    · rintro ⟨e, he, rfl⟩
      refine Op.mapError_runIn_of_error ?_
      rw [Op.bind_runIn_of_ok (Op.ofExcept_runIn _ _)]
      exact Op.bind_runIn_of_error he

/-- The failure of an included document makes the event fail. -/
theorem result_of_error {e : LoadError} {v : World} (he : D.result l = (.error e, v)) :
    m.result l = (.error (.included u e), v) := by
  obtain ⟨i, hi, -⟩ := h.included
  exact result_of_load_error hi ((h.load_eq_error hi).2 ⟨e, he, rfl⟩)

end Moment.Includes

/-! ## Own moments -/

/-- Events that fail do so at one of them, when those before it are taken. -/
theorem takeEvents_eq_error {c : DocumentContext} {nested : Option NestedLoad} {d : Draft}
    {items : List Xml.Located} {w v : World} {f : LoadError} :
    (takeEvents l c nested d items).runIn w = (.error f, v) ↔
      ∃ before x after d' z u, items = before ++ x :: after ∧
        (takeEvents l c nested d before).runIn w = (.ok d', z) ∧
        (d'.step l c nested x).runIn z = (.error f, u) ∧ v = reportFailure c x.seen f u := by
  constructor
  · intro h
    induction items generalizing d w with
    | nil => cases h
    | cons x r ih =>
      rw [takeEvents_cons] at h
      unfold Moment.result at h
      rcases hr : (d.step l c nested x).runIn w with ⟨e | a, z⟩
      · simp only [hr] at h
        cases h
        exact ⟨[], x, r, d, w, z, rfl, rfl, hr, rfl⟩
      · simp only [hr] at h
        obtain ⟨before, y, after, d', z', u, rfl, taken, failed, rfl⟩ := ih h
        exact ⟨x :: before, y, after, d', z', u, rfl, takeEvents_cons_eq_ok.2 ⟨a, z, hr, taken⟩,
          failed, rfl⟩
  · rintro ⟨before, x, after, d', z, u, rfl, taken, failed, rfl⟩
    rw [takeEvents_append, Op.bind_runIn_of_ok taken, takeEvents_cons]
    unfold Moment.result
    simp only [failed]

namespace Loading.ComesTo

variable (h : D.ComesTo l m)

include h

theorem isSound : m.draft.IsSound := by
  obtain ⟨source, before, after, -, -, taken⟩ := h.taken
  exact (Draft.IsSound.start D.parented).takeEvents (givesObjects_deeper l D.depth) taken

/-- The failure of an event is reported and ends the load of the document. -/
theorem result_of_error {f : LoadError} {v : World} (hf : m.result l = (.error f, v)) :
    D.result l = (.error f, reportFailure D.context m.event.seen f v) := by
  obtain ⟨source, before, after, read, items, taken⟩ := h.taken
  rw [result_of_read read, loadNested_eq, loadWith_runIn]
  refine Op.bind_runIn_of_error (takeEvents_eq_error.2 ?_)
  refine ⟨before, m.event, after, m.draft, m.world, v, items, taken, ?_, rfl⟩
  rw [← h.context, ← h.nested]
  exact hf

end Loading.ComesTo

/-- The load of a document that fails cannot read it, or fails at one of its moments, or when all
events are taken. -/
theorem Loading.result_eq_error {f : LoadError} {v : World} (h : D.result l = (.error f, v)) :
    D.source.read l = .error f ∧ v = D.world ∨
      (∃ m u, D.ComesTo l m ∧ m.result l = (.error f, u) ∧
        v = reportFailure D.context m.event.seen f u) ∨
      ∃ source d u, D.source.read l = .ok source ∧
        D.taken l (Xml.events source).items = (.ok d, u) ∧
        (d.complete l D.context (Xml.events source)).runIn u = (.error f, v) := by
  cases hr : D.source.read l with
  | error e =>
    rw [result_of_unread hr] at h
    cases h
    exact .inl ⟨rfl, rfl⟩
  | ok source =>
    rw [result_of_read hr, loadNested_eq, loadWith_runIn] at h
    rcases Op.bind_runIn_eq_error.1 h with h | ⟨d, u, taken, h⟩
    · obtain ⟨before, x, after, d, z, u, items, taken, failed, rfl⟩ := takeEvents_eq_error.1 h
      refine .inr (.inl ⟨⟨D.context, l.deeper D.depth, d, x, z⟩, u, ?_, failed, rfl⟩)
      exact ⟨rfl, rfl, source, before, after, hr, items, taken⟩
    · exact .inr (.inr ⟨source, d, u, rfl, taken, h⟩)

/-! ## Outermost documents -/

theorem Loading.outcome_eq_error {f : LoadError} {v : World} :
    D.outcome l = (.error f, v) ↔ D.result l = (.error f, v) := by
  unfold outcome
  rcases D.result l with ⟨e | r, u⟩
  · constructor <;> rintro ⟨⟩ <;> rfl
  · constructor <;> rintro ⟨⟩

/-- The load of a document that no other one includes. -/
def Loader.outermost (l : Loader) (c : DocumentContext) (s : Source) (w : World) : Loading :=
  ⟨l.maxDepth, c, [], s, w⟩

theorem Loader.result_outermost_text (c : DocumentContext) (source : String) (w : World) :
    (l.outermost c (.text source) w).result l =
      (takeEvents l c (l.deeper l.maxDepth) (.start []) (Xml.events source).items >>=
        (Draft.complete l c (Xml.events source) ·)).runIn (c.announce w) := by
  rw [Loading.result_of_read rfl, loadNested_eq, loadWith_runIn]
  rfl

theorem Loader.loadOuter_runIn (c : DocumentContext) (s : Source) (w : World) :
    (Op.ofExcept (s.read l) >>= l.loadOuter c).runIn w = (l.outermost c s w).outcome l := by
  unfold Loading.outcome Loading.result Loader.loadOuter outermost
  rw [← bind_assoc, Op.bind_runIn]
  rcases Op.runIn (Op.ofExcept (s.read l) >>= loadNested l l.maxDepth c []) w with ⟨_ | _, _⟩ <;> rfl

theorem Loader.outerContext_runIn (h : Held) (table : Option TableId) (bundle : Option Bundle)
    (location : Option Url) (w : World) :
    ∃ c u, c.depth = 0 ∧ c.location = location ∧
      (l.outerContext h table bundle location).runIn w = (.ok c, u) := by
  cases table with
  | none => exact ⟨_, _, rfl, rfl, rfl⟩
  | some t => exact ⟨_, _, rfl, rfl, rfl⟩

theorem Loader.outerContext_keeps {R : World → World → Prop} [World.Lasting R] (h : Held)
    (table : Option TableId) (bundle : Option Bundle) (location : Option Url) :
    (l.outerContext h table bundle location).Keeps R := by
  cases table with
  | none => exact .bind (.make fun w => World.Lasting.allocTable w _) fun _ => .pure _
  | some t => exact .pure _

/-- The load of a text. -/
theorem Loader.loadText_runIn (h : Held) (source : String) (table : Option TableId)
    (location : Option Url) (w : World) : ∃ c u, c.depth = 0 ∧ c.location = location ∧
      (l.outerContext h table none location).runIn w = (.ok c, u) ∧
      (l.loadText h source table location).runIn w = (l.outermost c (.text source) u).outcome l := by
  obtain ⟨c, u, depth, here, hc⟩ := outerContext_runIn (l := l) h table none location w
  refine ⟨c, u, depth, here, hc, ?_⟩
  unfold Loader.loadText
  rw [Op.bind_runIn_of_ok hc, ← loadOuter_runIn]
  rfl

/-- The load of the document at a URL. -/
theorem Loader.loadUrl_runIn (h : Held) (location : Url) (table : Option TableId)
    (bundle : Option Bundle) (w : World) : ∃ c u, c.depth = 0 ∧ c.location = some location ∧
      (l.outerContext h table bundle (some location)).runIn w = (.ok c, u) ∧
      (l.loadUrl h location table bundle).runIn w =
        (l.outermost c (.resource location l.charset) u).outcome l := by
  obtain ⟨c, u, depth, here, hc⟩ := outerContext_runIn (l := l) h table bundle (some location) w
  refine ⟨c, u, depth, here, hc, ?_⟩
  unfold Loader.loadUrl
  rw [Op.bind_runIn_of_ok hc, ← loadOuter_runIn]
  rfl

end Bxml
