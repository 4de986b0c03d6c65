import Bxml.Proofs.Load.Lasting
import Bxml.Proofs.Load.Steps
import Bxml.Proofs.World.Ids

/-!
# The ids of a load

A document declares an id at the start of an element and registers it at its end.  This file reads
the declarations off the moments of a load, those of inline documents in their place, and shows that
a load adds just them to the table of ids, `ids_of_load`.  What makes the induction go through is
that the open declarations are those of the open elements: an element with an id keeps its value
from its start to its end.

* `Moment.declare` is what one event does to the open declarations, `declare` what some moments do.
* `Adds` is what a load adds to a table.  A failure may come between the end of a declaration and
  its registration, so that the last one may be missing then (`Adds.missing`).
* The end of an element is `adds_closeElement`, the event of an inline include `adds_of_inside`, and
  a whole document `adds_loadNested`, by induction on the depth.

An engine might register ids in the table of a document; that it does not is the hypothesis
`KeepsIds`.
-/

namespace Bxml

open World (KeepsIds Lasting)

/-- Whether an attribute gives its element an id. -/
def Xml.MarkupAttribute.isId (a : Xml.MarkupAttribute) : Bool :=
  a.space = some Xml.controlPrefix ∧ a.name = idAttribute

/-- The id that some attributes give their element. -/
def idOf? (as : List Xml.MarkupAttribute) : Option String :=
  (as.filter (·.isId)).getLast?.map (·.value)

/-- The id of an element, with its value. -/
def Element.entry? (e : Element) : Option (String × Value) := e.id.map fun id => (id, e.value)

/-- The id that an event declares, with the value of the element that starts. Only instances and
included documents have ids. -/
def Moment.declaration? (l : Loader) (m : Moment) : Option (String × Value) :=
  match m.event.event, (m.result l).1 with
  | .start tag, .ok d =>
    (d.stack.head?.filter (·.kind.acceptsId)).bind fun e => (idOf? tag.attributes).map fun id => (id, e.value)
  | _, _ => none

/-- What an event does to the declarations of the open elements, if its document has the table `t`,
and the declarations it ends. -/
def Moment.declare (l : Loader) (t : TableId) (pending : List (Option (String × Value)))
    (m : Moment) : List (Option (String × Value)) × List (String × Value) :=
  if m.context.table = t then
    match m.event.event with
    | .start _ => (m.declaration? l :: pending, [])
    | .close => (pending.tail, pending.head?.join.toList)
    | _ => (pending, [])
  else (pending, [])

/-- The declarations that are open after some moments, when `pending` are before, and those that end
during them, in the order of their ends. -/
def declare (l : Loader) (t : TableId) (pending : List (Option (String × Value))) :
    List Moment → List (Option (String × Value)) × List (String × Value)
  | [] => (pending, [])
  | m :: ms =>
    let now := m.declare l t pending
    let later := declare l t now.1 ms
    (later.1, now.2 ++ later.2)

/-- What a load adds to a table: all that was declared, and after a failure at least all but the last
of it. -/
structure Adds {α : Type} (t : TableId) (declared : List (String × Value)) (w : World)
    (r : Except LoadError α × World) : Prop where
  lasts : t.index < r.2.tables.size
  added : ∃ added, (r.2.table t).toList = (w.table t).toList ++ added ∧ added <+: declared ∧
    declared.length ≤ added.length + 1 ∧ ∀ a, r.1 = .ok a → added = declared

variable {l : Loader} {c : DocumentContext} {d d' : Draft} {t : TableId} {w v : World}
  {pending : List (Option (String × Value))} {declared : List (String × Value)}

/-! ## What is added -/

namespace Adds

variable {α β : Type}

theorem nothing {r : Except LoadError α × World} (ht : t.index < w.tables.size)
    (h : KeepsIds w r.2) : Adds t [] w r where
  lasts := Nat.lt_of_lt_of_le ht h.size_le
  added := ⟨[], by rw [h.table_eq ht]; simp, List.prefix_rfl, by simp, fun _ _ => rfl⟩

/-- A failure need not have added the last declaration. -/
theorem missing {e : LoadError} (ht : t.index < w.tables.size) (h : KeepsIds w v)
    (hd : declared.length ≤ 1) :
    Adds t declared w ((.error e, v) : Except LoadError α × World) where
  lasts := Nat.lt_of_lt_of_le ht h.size_le
  added := ⟨[], by rw [h.table_eq ht]; simp, List.nil_prefix, by simpa using hd, fun _ h => by cases h⟩

/-- What is added in two steps. -/
theorem append {a : α} {declared' : List (String × Value)} {r : Except LoadError β × World}
    (h : Adds t declared w ((.ok a, v) : Except LoadError α × World)) (h' : Adds t declared' v r) :
    Adds t (declared ++ declared') w r := by
  obtain ⟨before, hv, -, -, hd⟩ := h.added
  obtain ⟨added, hr, hp, hl, hd'⟩ := h'.added
  rw [hd a rfl] at hv
  refine ⟨h'.lasts, declared ++ added, ?_, ?_, ?_, fun b hb => ?_⟩
  · rw [hr, hv, List.append_assoc]
  · exact (List.prefix_append_right_inj _).2 hp
  · simp only [List.length_append]
    omega
  · rw [hd' b hb]

/-- Steps that leave the tables alone add nothing. -/
theorem then_keeps {a : α} {r : Except LoadError β × World}
    (h : Adds t declared w ((.ok a, v) : Except LoadError α × World)) (h' : KeepsIds v r.2) :
    Adds t declared w r := by
  simpa using h.append (nothing h.lasts h')

theorem of_keeps (ht : t.index < w.tables.size) (h : KeepsIds w v)
    {r : Except LoadError α × World} (h' : Adds t declared v r) : Adds t declared w r := by
  obtain ⟨added, hr, hp⟩ := h'.added
  refine ⟨h'.lasts, added, ?_, hp⟩
  rw [hr, h.table_eq ht]

/-- The same failure, reported or wrapped. -/
theorem of_error {e f : LoadError} {u : World}
    (h : Adds t declared w ((.error e, v) : Except LoadError α × World)) (hu : u.tables = v.tables) :
    Adds t declared w ((.error f, u) : Except LoadError β × World) := by
  obtain ⟨added, hr, hp, hl, -⟩ := h.added
  refine ⟨by simpa [hu] using h.lasts, added, ?_, hp, hl, fun _ h => by cases h⟩
  unfold World.table at hr ⊢
  rw [hu]
  exact hr

end Adds

theorem declare_append (ms ns : List Moment) :
    declare l t pending (ms ++ ns) =
      ((declare l t (declare l t pending ms).1 ns).1,
        (declare l t pending ms).2 ++ (declare l t (declare l t pending ms).1 ns).2) := by
  induction ms generalizing pending with
  | nil => rfl
  | cons m ms ih =>
    simp only [List.cons_append, declare, ih, List.append_assoc]

/-! ## Starts of elements -/

/-- Whether an element has an id only if its kind may have one. -/
def Element.Proper (e : Element) : Prop := e.id.isSome = true → e.kind.acceptsId = true

/-- Whether all open elements are proper. -/
def Draft.Proper (d : Draft) : Prop := ∀ e ∈ d.stack, e.Proper

/-- What adds an attribute to an element leaves its kind and its value alone, and gives it an id if
the attribute does so. -/
theorem Attributed.add_eq_ok {uri : Option String} {x y : Attributed} {a : Xml.MarkupAttribute}
    (h : (Attributed.add c uri x a).runIn w = (.ok y, v)) :
    y.element.kind = x.element.kind ∧
      (a.isId = true ∧ y.element.id = some a.value ∧ x.element.kind.acceptsId = true ∨
        a.isId = false ∧ y.element.id = x.element.id) := by
  unfold Attributed.add at h
  dsimp only at h
  split at h
  · next hs =>
    simp only [Attributed.addId, checkId, Op.bind_runIn_eq_ok, require_eq_ok] at h
    obtain ⟨_, _, ⟨ha, rfl⟩, _, _, ⟨_, _, -, _, _, -, hk, -⟩, h⟩ := h
    cases h
    refine ⟨rfl, .inl ⟨?_, rfl, hk⟩⟩
    simpa [Xml.MarkupAttribute.isId, hs] using ha
  · next hs =>
    have ha : a.isId = false := by simp [Xml.MarkupAttribute.isId, hs]
    suffices hy : y.element.kind = x.element.kind ∧ y.element.id = x.element.id from
      ⟨hy.1, .inr ⟨ha, hy.2⟩⟩
    split at h
    · cases h
      exact ⟨rfl, rfl⟩
    · split at h
      · simp only [Attributed.addAttached, Op.bind_runIn_eq_ok] at h
        obtain ⟨_, _, -, h⟩ := h
        cases h
        exact ⟨rfl, rfl⟩
      · have resolved (h : (x.addResolved c a).runIn w = (.ok y, v)) :
            y.element.kind = x.element.kind ∧ y.element.id = x.element.id := by
          simp only [Attributed.addResolved, Op.bind_runIn_eq_ok] at h
          obtain ⟨_ | _, _, -, h⟩ := h
          all_goals
            cases h
            exact ⟨rfl, rfl⟩
        split at h
        · cases h
          exact ⟨rfl, rfl⟩
        · cases h
        · cases h
        · cases h
        · cases h
        · exact resolved h
        · exact resolved h
        · exact resolved h
        · exact resolved h

theorem idOf?_cons (a : Xml.MarkupAttribute) (as : List Xml.MarkupAttribute) :
    idOf? (a :: as) = (idOf? as).or (if a.isId then some a.value else none) := by
  unfold idOf?
  cases ha : a.isId with
  | false => simp [ha]
  | true =>
    rw [List.filter_cons_of_pos ha, List.getLast?_cons]
    cases (as.filter (·.isId)).getLast? <;> rfl

/-- The id that the attributes of an element give it. -/
theorem foldlM_add_eq_ok {uri : Option String} {as : List Xml.MarkupAttribute} {x y : Attributed}
    (h : (as.foldlM (Attributed.add c uri) x).runIn w = (.ok y, v)) (hx : x.element.Proper) :
    y.element.id = (idOf? as).or x.element.id ∧ y.element.Proper := by
  induction as generalizing x w with
  | nil =>
    cases h
    exact ⟨rfl, hx⟩
  | cons a as ih =>
    rw [List.foldlM_cons, Op.bind_runIn_eq_ok] at h
    obtain ⟨z, u, ha, h⟩ := h
    rw [idOf?_cons]
    obtain ⟨hk, ⟨hid, hz, hx'⟩ | ⟨hid, hz⟩⟩ := Attributed.add_eq_ok ha
    · obtain ⟨hy, hp⟩ := ih h fun _ => by rw [hk, hx']
      exact ⟨by rw [hy, hz, hid]; cases idOf? as <;> rfl, hp⟩
    · obtain ⟨hy, hp⟩ := ih h fun hs => by rw [hk]; exact hx (by rw [← hz]; exact hs)
      exact ⟨by rw [hy, hz, hid]; cases idOf? as <;> rfl, hp⟩

theorem startElement_id {α : Type} {nested : Option α} {tag : Xml.StartTag} {at_ : Location}
    {x : Attributed} {origin : Origin α}
    (h : (startElement l c nested d tag at_).runIn w = (.ok (x, origin), v)) :
    x.element.id = idOf? tag.attributes ∧ x.element.Proper := by
  simp only [startElement, Op.bind_runIn_eq_ok] at h
  obtain ⟨found, _, -, y, u, ha, h⟩ := h
  obtain ⟨hid, hp⟩ := foldlM_add_eq_ok ha (by rintro ⟨⟩)
  suffices hx : x = y by
    rw [hx, hid]
    exact ⟨Option.or_none, hp⟩
  split at h
  · simp only [Op.bind_runIn_eq_ok] at h
    obtain ⟨_, _, -, h⟩ := h
    cases h
    rfl
  · simp only [Op.bind_runIn_eq_ok] at h
    obtain ⟨_, _, -, h⟩ := h
    cases h
    rfl
  · cases h
    rfl

namespace Moment

variable {m : Moment}

/-- The start of an element puts the element on the stack that the event declares. -/
theorem stack_of_start {tag : Xml.StartTag} (he : m.event.event = .start tag)
    (h : m.result l = (.ok d', v)) :
    ∃ e, d'.stack = e :: m.draft.stack ∧ e.Proper ∧ m.declaration? l = e.entry? := by
  have declared {e : Element} (hs : d'.stack = e :: m.draft.stack)
      (hid : e.id = idOf? tag.attributes) (hp : e.Proper) : m.declaration? l = e.entry? := by
    unfold declaration? Element.entry?
    rw [he, h]
    dsimp only
    rw [← hid, hs, List.head?_cons]
    cases hi : e.id with
    | none => cases Option.filter _ _ <;> rfl
    | some id =>
      have hk := hp (by rw [hi]; rfl)
      simp [Option.filter, hk]
  have hr := h
  rw [result_of_start he] at hr
  obtain ⟨x, u, ⟨n, i, a, parented, z, hx, -, hp⟩ | ⟨a, hx, hp⟩⟩ := Draft.openElement_eq_ok hr
  all_goals
    obtain ⟨hid, hproper⟩ := startElement_id hx
    obtain ⟨-, bindings, rfl⟩ := Draft.push_eq_ok hp
    exact ⟨_, rfl, hproper, declared rfl hid hproper⟩

/-- The start of an element that includes no document leaves the tables alone. -/
theorem keepsIds_of_start (hl : l.Keeps KeepsIds) {tag : Xml.StartTag}
    (he : m.event.event = .start tag) (hi : m.included? l = none) :
    KeepsIds m.world (m.result l).2 := by
  have hs := hl.startElement m.context m.nested (m.draft.settleLanguage l) tag m.event.location
    m.world
  rw [result_of_start he, Draft.openElement, Op.bind_runIn]
  cases hr : (startElement l m.context m.nested (m.draft.settleLanguage l) tag
      m.event.location).runIn m.world with
  | mk r u =>
    rw [hr] at hs
    cases r with
    | error e => exact hs
    | ok x =>
      obtain ⟨x, origin⟩ := x
      cases origin with
      | inclusion n i => simp [included?, he, hr] at hi
      | known a => exact Lasting.trans hs (Draft.keeps_push _ _ _ _ u)

end Moment

/-! ## Ends of elements -/

theorem Element.takesValue_of_proper {e : Element} (h : e.Proper) (hk : e.kind.takesValue = true) :
    e.id = none := by
  unfold Element.Proper at h
  cases hi : e.id with
  | none => rfl
  | some id =>
    have ha := h (by rw [hi]; rfl)
    cases hkind : e.kind <;> simp_all [ElementKind.takesValue, ElementKind.acceptsId]

/-- The registration of an id. -/
theorem adds_registerId (hl : l.Keeps KeepsIds) (ht : t.index < w.tables.size) (h : Held)
    (e : Element) :
    Adds t (if c.table = t then e.entry?.toList else []) w ((registerId l c h e).runIn w) := by
  unfold registerId Element.entry?
  cases hid : e.id with
  | none => simpa using Adds.nothing ht (Lasting.refl w)
  | some id =>
    dsimp only
    rw [Op.bind_runIn, Op.mapError_runIn, Op.update_runIn]
    cases hp : w.putId c.table id e.value with
    | error f =>
      refine Adds.missing ht (Lasting.refl w) ?_
      split <;> simp
    | ok u =>
      have put : Adds t (if c.table = t then [(id, e.value)] else []) w
          ((.ok (), u) : Except LoadError Unit × World) := by
        refine ⟨by rw [World.tables_size_putId hp]; exact ht, _, ?_, List.prefix_rfl, by simp,
          fun _ _ => rfl⟩
        split
        · next hc =>
          subst hc
          exact World.table_putId ht hp
        · next hc => rw [World.table_putId_of_ne hc hp, List.append_nil]
      refine put.then_keeps ?_
      dsimp only
      split
      · refine Op.Keeps.bind (.read _) (fun property => ?_) u
        split
        · exact .mapError _ (hl.host.setProperty _ _ _ _)
        · exact .pure _
      · exact Lasting.refl u

/-- The declarations of the open elements of a document, if it has the table `t`. -/
def Draft.opened (d : Draft) (c : DocumentContext) (t : TableId) :
    List (Option (String × Value)) :=
  if c.table = t then d.stack.map Element.entry? else []

/-- A new value of the innermost open element changes no declaration. -/
theorem Draft.setValue_proper {a : Value} (hd : d.Proper)
    (hk : ∀ e ∈ d.stack.head?, e.kind.takesValue = true) :
    (d.setValue a).Proper ∧ (d.setValue a).opened c t = d.opened c t := by
  unfold Draft.setValue
  cases hs : d.stack with
  | nil => exact ⟨hd, rfl⟩
  | cons e outer =>
    have he : e.Proper := hd e (by rw [hs]; exact List.mem_cons_self)
    have hid := Element.takesValue_of_proper he (hk e (by rw [hs]; rfl))
    constructor
    · intro x hx
      rcases List.mem_cons.1 hx with rfl | hx
      · exact he
      · exact hd x (by rw [hs]; exact List.mem_cons_of_mem _ hx)
    · simp [Draft.opened, hs, Element.entry?, hid]

/-- What a closed element leaves of the open ones are their declarations. -/
theorem closeAs_proper {e : Element} (hd : d.Proper)
    (h : (closeAs l c d e).runIn w = (.ok d', v)) :
    d'.Proper ∧ d'.opened c t = d.opened c t := by
  cases hk : e.kind.isComposed with
  | false =>
    rw [closeAs_of_not_isComposed hk h]
    exact ⟨hd, rfl⟩
  | true =>
    simp only [closeAs_of_isComposed hk, Op.bind_runIn_eq_ok] at h
    obtain ⟨_, _, -, d₁, _, hc, _, _, -, h⟩ := h
    cases h
    rcases compose_eq_ok hc with ⟨-, rfl, -⟩ | ⟨r, parented, hr, -, ht⟩
    · exact ⟨hd, rfl⟩
    · rw [Receiver.take_eq_ok ht]
      cases r with
      | object o => exact ⟨hd, rfl⟩
      | element =>
        obtain ⟨p, outer, hs, hk⟩ := receiver?_eq_element hr
        refine Draft.setValue_proper (d := { d with parented := parented }) hd fun x hx => ?_
        rw [hs, List.head?_cons, Option.mem_some] at hx
        rw [← hx]
        exact hk

theorem length_toList_le {α : Type} (p : Prop) [Decidable p] (o : Option α) :
    (if p then o.toList else []).length ≤ 1 := by
  split
  · cases o <;> simp
  · simp

/-- The end of an element registers its id last. -/
theorem adds_closeElement (hl : l.Keeps KeepsIds) (ht : t.index < w.tables.size) {at_ : Location}
    {e : Element} {outer : List Element} (hs : d.stack = e :: outer) (hd : d.Proper) :
    Adds t (if c.table = t then e.entry?.toList else []) w ((d.closeElement l c at_).runIn w) ∧
      ∀ d', ((d.closeElement l c at_).runIn w).1 = .ok d' → d'.Proper ∧
        d'.opened c t = { d with stack := outer }.opened c t := by
  have outerProper : { d with stack := outer }.Proper :=
    fun x hx => hd x (by rw [hs]; exact List.mem_cons_of_mem _ hx)
  have keeps := hl.closeAs c { d with stack := outer } e w
  unfold Draft.closeElement
  rw [hs]
  dsimp only
  rw [Op.bind_runIn]
  cases hc : (closeAs l c { d with stack := outer } e).runIn w with
  | mk r u =>
    rw [hc] at keeps
    cases r with
    | error f => exact ⟨Adds.missing ht keeps (length_toList_le _ _), by rintro _ ⟨⟩⟩
    | ok d₁ =>
      have closed := closeAs_proper (t := t) outerProper hc
      have registered := adds_registerId (c := c) hl (Nat.lt_of_lt_of_le ht keeps.size_le)
        (d₁.held c e.heldValues) e
      dsimp only
      rw [Op.bind_runIn]
      cases hr : (registerId l c (d₁.held c e.heldValues) e).runIn u with
      | mk r u' =>
        rw [hr] at registered
        have added := Adds.of_keeps ht keeps registered
        cases r with
        | error f => exact ⟨added.of_error rfl, by rintro _ ⟨⟩⟩
        | ok _ =>
          refine ⟨added.then_keeps (Lasting.refl _), ?_⟩
          rintro d' ⟨⟩
          split <;> exact closed

/-- The end of an element ends its declaration. -/
theorem Moment.adds_of_close {m : Moment} (hl : l.Keeps KeepsIds) (he : m.event.event = .close)
    (ht : t.index < m.world.tables.size) (hd : m.draft.Proper)
    (base : List (Option (String × Value))) :
    Adds t (m.declare l t (m.draft.opened m.context t ++ base)).2 m.world (m.result l) ∧
      ∀ d', (m.result l).1 = .ok d' → d'.Proper ∧
        (m.declare l t (m.draft.opened m.context t ++ base)).1 = d'.opened m.context t ++ base := by
  have hr : m.result l = (m.draft.closeElement l m.context m.event.location).runIn m.world := by
    unfold result Draft.step
    rw [he]
  rw [hr]
  cases hs : m.draft.stack with
  | nil =>
    unfold Moment.declare Draft.closeElement
    rw [he, hs]
    refine ⟨Adds.missing ht (Lasting.refl _) ?_, by rintro _ ⟨⟩⟩
    split
    · cases (m.draft.opened m.context t ++ base).head?.join <;> simp
    · simp
  | cons e outer =>
    have declared : m.declare l t (m.draft.opened m.context t ++ base) =
        ({ m.draft with stack := outer }.opened m.context t ++ base,
          if m.context.table = t then e.entry?.toList else []) := by
      unfold Moment.declare Draft.opened
      rw [he, hs]
      split <;> simp
    obtain ⟨added, closed⟩ := adds_closeElement (c := m.context) hl ht hs hd
    rw [declared]
    refine ⟨added, fun d' h => ?_⟩
    obtain ⟨hproper, hopened⟩ := closed d' h
    exact ⟨hproper, by rw [hopened]⟩

/-! ## Events -/

/-- What a load adds to a table, whatever declarations are open when it begins. -/
def AddsDeclared {α : Type} (l : Loader) (t : TableId) (w : World) (ms : List Moment)
    (r : Except LoadError α × World) : Prop :=
  t.index < w.tables.size → (∀ m ∈ ms, t.index < m.world.tables.size) ∧
    ∀ pending, Adds t (declare l t pending ms).2 w r ∧
      ∀ x, r.1 = .ok x → (declare l t pending ms).1 = pending

namespace Moment

variable {m : Moment} {n : NestedLoad} {i : Inclusion}

theorem keepsIds_of_included (hl : l.Keeps KeepsIds) (h : m.included? l = some (n, i, v)) :
    KeepsIds m.world v := by
  obtain ⟨tag, x, -, hs⟩ := included?_eq_some h
  have keeps := hl.startElement m.context m.nested (m.draft.settleLanguage l) tag m.event.location
    m.world
  rw [hs] at keeps
  exact keeps

/-- After the load of the document that it includes an event does nothing but put its element on the
stack. -/
theorem result_of_document {source : String} (hi : m.included? l = some (n, i, w))
    (hr : l.readText i.url i.charset = .ok source) :
    (m.result l).2 = ((n i.context m.draft.parented source).runIn w).2 ∧
      ∀ e, ((n i.context m.draft.parented source).runIn w).1 = .error e →
        ∃ f, (m.result l).1 = .error f := by
  cases hn : (n i.context m.draft.parented source).runIn w with
  | mk r u =>
    cases r with
    | error e =>
      rw [result_of_load_error hi (Inclusion.load_of_error hr hn)]
      exact ⟨rfl, fun _ _ => ⟨_, rfl⟩⟩
    | ok x =>
      refine ⟨?_, by rintro _ ⟨⟩⟩
      obtain ⟨tag, y, he, hs⟩ := included?_eq_some hi
      have load : (i.load l n (m.draft.settleLanguage l).parented).runIn w =
          (.ok (x.1.root, x.2), u) := by
        refine Op.mapError_runIn_eq_ok.2 (Op.bind_runIn_eq_ok.2 ⟨source, w, ?_, ?_⟩)
        · exact Op.ofExcept_runIn_eq_ok.2 ⟨hr, rfl⟩
        · exact Op.bind_runIn_eq_ok.2 ⟨x, u, hn, rfl⟩
      rw [result_of_start he]
      unfold Draft.openElement
      dsimp only
      rw [Op.bind_runIn_of_ok hs]
      dsimp only
      rw [Op.bind_runIn_of_ok load]
      exact Draft.push_world _ _ _ _ _

/-- An event that is neither the start nor the end of an element leaves the tables and the
declarations alone. -/
theorem adds_of_content (hl : l.Keeps KeepsIds) (hs : ∀ tag, m.event.event ≠ .start tag)
    (hc : m.event.event ≠ .close) (ht : t.index < m.world.tables.size) (hd : m.draft.Proper) :
    Adds t [] m.world (m.result l) ∧ ∀ d', (m.result l).1 = .ok d' → d'.Proper ∧
      d'.opened m.context t = m.draft.opened m.context t := by
  cases he : m.event.event with
  | start tag => exact absurd he (hs tag)
  | close => exact absurd he hc
  | instruction target data =>
    have hr : m.result l = (m.draft.addInstruction target data m.event.location).runIn m.world := by
      unfold result Draft.step
      rw [he]
    refine ⟨Adds.nothing ht ?_, fun d' h => ?_⟩
    · rw [hr]
      exact Loader.Keeps.addInstruction _ _ _ _ _
    · rw [hr] at h
      rw [Draft.addInstruction_eq_ok (Prod.ext h rfl)]
      exact ⟨hd, rfl⟩
  | characters text =>
    have hr : m.result l = (m.draft.addText l m.context text m.event.location).runIn m.world := by
      unfold result Draft.step
      rw [he]
    refine ⟨Adds.nothing ht ?_, fun d' h => ?_⟩
    · rw [hr]
      exact hl.addText _ _ _ _ _
    · rw [hr] at h
      rcases Draft.addText_eq_ok (Prod.ext h rfl) with rfl | ⟨e, outer, a, hs, ha, rfl⟩
      · exact ⟨hd, rfl⟩
      · have proper : e.Proper := hd e (by rw [hs]; exact List.mem_cons_self)
        constructor
        · intro x hx
          rcases List.mem_cons.1 hx with rfl | hx
          · exact proper
          · exact hd x (by rw [hs]; exact List.mem_cons_of_mem _ hx)
        · unfold Draft.opened
          rw [hs]
          rcases ha with rfl | ha
          · rfl
          · simp [Element.entry?, Element.takesValue_of_proper proper ha.1]

/-- What an event adds to a table, with the document that it includes. -/
theorem adds_of_inside (hl : l.Keeps KeepsIds) (ht : t.index < m.world.tables.size)
    (hd : m.draft.Proper) {ms : List Moment}
    (hi : m.Inside l (fun _ _ w ms r => AddsDeclared l t w ms r) ms) :
    (∀ m' ∈ m :: ms, t.index < m'.world.tables.size) ∧ ∀ base,
      Adds t (Bxml.declare l t (m.draft.opened m.context t ++ base) (m :: ms)).2 m.world
        (m.result l) ∧
      ∀ d', (m.result l).1 = .ok d' → d'.Proper ∧
        (Bxml.declare l t (m.draft.opened m.context t ++ base) (m :: ms)).1 =
          d'.opened m.context t ++ base := by
  -- the start of an element declares it before anything inside
  have started {tag : Xml.StartTag} (he : m.event.event = .start tag) {d' : Draft} {v : World}
      (h : m.result l = (.ok d', v)) (base : List (Option (String × Value))) : d'.Proper ∧
      m.declare l t (m.draft.opened m.context t ++ base) =
        (d'.opened m.context t ++ base, []) := by
    obtain ⟨e, hs, hp, hdecl⟩ := stack_of_start he h
    constructor
    · intro x hx
      rw [hs] at hx
      rcases List.mem_cons.1 hx with rfl | hx
      · exact hp
      · exact hd x hx
    · unfold Moment.declare Draft.opened
      rw [he, hs, hdecl]
      split <;> simp
  have silent {tag : Xml.StartTag} (he : m.event.event = .start tag)
      (pending : List (Option (String × Value))) : (m.declare l t pending).2 = [] := by
    unfold Moment.declare
    rw [he]
    split <;> rfl
  cases hi with
  | nothing hn =>
    refine ⟨by simpa using ht, fun base => ?_⟩
    simp only [Bxml.declare, List.append_nil]
    cases he : m.event.event with
    | close => exact adds_of_close hl he ht hd base
    | start tag =>
      refine ⟨?_, fun d' h => ?_⟩
      · rw [silent he]
        exact Adds.nothing ht (keepsIds_of_start hl he hn)
      · obtain ⟨hp, hdecl⟩ := started he (Prod.ext h rfl) base
        exact ⟨hp, by rw [hdecl]⟩
    | _ =>
      obtain ⟨added, kept⟩ := adds_of_content hl (by simp [he]) (by simp [he]) ht hd
      have hdecl : m.declare l t (m.draft.opened m.context t ++ base) =
          (m.draft.opened m.context t ++ base, []) := by
        unfold Moment.declare
        rw [he]
        split <;> rfl
      rw [hdecl]
      refine ⟨added, fun d' h => ?_⟩
      obtain ⟨hp, ho⟩ := kept d' h
      exact ⟨hp, by rw [ho]⟩
  | unread hn hr =>
    obtain ⟨tag, x, he, -⟩ := included?_eq_some hn
    refine ⟨by simpa using ht, fun base => ?_⟩
    rw [result_of_unread hn hr]
    simp only [Bxml.declare, List.append_nil, silent he]
    exact ⟨Adds.nothing ht (keepsIds_of_included hl hn), by rintro _ ⟨⟩⟩
  | @document n i v source _ hn hr hq =>
    obtain ⟨tag, x, he, -⟩ := included?_eq_some hn
    have keeps := keepsIds_of_included hl hn
    obtain ⟨hms, hq⟩ := hq (Nat.lt_of_lt_of_le ht keeps.size_le)
    refine ⟨?_, fun base => ?_⟩
    · intro m' hm'
      rcases List.mem_cons.1 hm' with rfl | hm'
      · exact ht
      · exact hms m' hm'
    · simp only [Bxml.declare, silent he, List.nil_append]
      obtain ⟨added, balanced⟩ := hq (m.declare l t (m.draft.opened m.context t ++ base)).1
      obtain ⟨hw, hfail⟩ := result_of_document hn hr
      cases hload : (n i.context m.draft.parented source).runIn v with
      | mk r u =>
        rw [hload] at added balanced hw hfail
        cases r with
        | error e =>
          obtain ⟨f, hf⟩ := hfail e rfl
          have failed : m.result l = (.error f, u) := Prod.ext hf hw
          rw [failed]
          exact ⟨Adds.of_keeps ht keeps (added.of_error rfl), by rintro _ ⟨⟩⟩
        | ok o =>
          have kept : KeepsIds u (m.result l).2 := by
            rw [hw]
            exact Lasting.refl _
          refine ⟨Adds.of_keeps ht keeps (added.then_keeps kept), fun d' h => ?_⟩
          obtain ⟨hp, hdecl⟩ := started he (Prod.ext h rfl) base
          exact ⟨hp, by rw [balanced o rfl, hdecl]⟩

end Moment

/-! ## Loads -/

/-- What a load adds to a table that exists. -/
theorem adds_loadNested (hl : l.Keeps KeepsIds) (n : Nat) (c : DocumentContext)
    (parented : List ObjectId) (source : String) (w : World) :
    AddsDeclared l t w (momentsNested l n c parented source w)
      ((loadNested l n c parented source).runIn w) := by
  refine loadNested_induction (l := l)
    (P := fun c d w ms r => t.index < w.tables.size → d.Proper →
      (∀ m ∈ ms, t.index < m.world.tables.size) ∧ ∀ base,
        Adds t (declare l t (d.opened c t ++ base) ms).2 w r ∧
        ∀ d', r.1 = .ok d' → d'.Proper ∧
          (declare l t (d.opened c t ++ base) ms).1 = d'.opened c t ++ base)
    (Q := fun _ _ w ms r => AddsDeclared l t w ms r)
    ?nil ?fail ?step ?abort ?complete n c parented source w
  case nil =>
    intro c d w ht hd
    refine ⟨by simp, fun base => ⟨Adds.nothing ht (Lasting.refl w), ?_⟩⟩
    rintro _ ⟨⟩
    exact ⟨hd, rfl⟩
  case fail =>
    intro m ms e w hi hr ht hd
    obtain ⟨hms, added⟩ := Moment.adds_of_inside hl ht hd hi
    refine ⟨hms, fun base => ⟨?_, by rintro _ ⟨⟩⟩⟩
    have failed := (added base).1
    rw [hr] at failed
    exact failed.of_error rfl
  case step =>
    intro m ms d w ns r hi hr ih ht hd
    obtain ⟨hms, added⟩ := Moment.adds_of_inside hl ht hd hi
    rw [hr] at added
    obtain ⟨hns, later⟩ := ih (added []).1.lasts ((added []).2 d rfl).1
    refine ⟨fun m' hm' => (List.mem_append.1 hm').elim (hms m') (hns m'), fun base => ?_⟩
    rw [declare_append, ((added base).2 d rfl).2]
    exact ⟨(added base).1.append (later base).1, (later base).2⟩
  case abort =>
    intro c parented w ms e v h ht
    obtain ⟨hms, added⟩ := h ht (by simp [Draft.Proper, Draft.start])
    refine ⟨hms, fun pending => ⟨?_, by rintro _ ⟨⟩⟩⟩
    have failed := (added pending).1
    simp only [Draft.opened, Draft.start, List.map_nil, ite_self, List.nil_append] at failed
    have announced : KeepsIds w (c.announce w) := World.keepsIds_of_eq rfl
    exact Adds.of_keeps ht announced (failed.of_error rfl)
  case complete =>
    intro c parented es w ms d v h ht
    obtain ⟨hms, added⟩ := h ht (by simp [Draft.Proper, Draft.start])
    refine ⟨hms, fun pending => ?_⟩
    obtain ⟨now, balanced⟩ := added pending
    simp only [Draft.opened, Draft.start, List.map_nil, ite_self, List.nil_append] at now balanced
    have announced : KeepsIds w (c.announce w) := World.keepsIds_of_eq rfl
    refine ⟨Adds.of_keeps ht announced (now.then_keeps (hl.complete c es d v)), fun x hx => ?_⟩
    obtain ⟨hs, -⟩ := Draft.complete_eq_ok (Prod.ext hx rfl)
    rw [(balanced d rfl).2, hs]
    simp

/-- An inline document shares the table of the document around it, any other has a new one. -/
theorem prepareInclusion_table {α : Type} {nested : Option α} {e : Element} {a : α} {i : Inclusion}
    (h : (prepareInclusion l c nested d e).runIn w = (.ok (a, i), v)) :
    if isInline e = true then i.context.table = c.table
    else w.tables.size ≤ i.context.table.index := by
  simp only [prepareInclusion, Op.bind_runIn_eq_ok] at h
  obtain ⟨src, w₁, h₁, _, w₂, h₂, _, w₃, h₃, _, w₄, h₄, _, w₅, h₅, t, w₆, h₆, _, _, -, _, _, -, h⟩ := h
  cases h
  have keeps : KeepsIds w w₅ :=
    Lasting.trans ((keeps_orFail _ _ _).lasts h₁) (Lasting.trans ((keeps_includeSource _ _).lasts h₂)
      (Lasting.trans ((keeps_orFail _ _ _).lasts h₃) (Lasting.trans
        ((keeps_includeBundle _ _ _).lasts h₄) ((keeps_includeCharset _ _).lasts h₅))))
  unfold includeTable at h₆
  split at h₆
  · next hi =>
    cases h₆
    rw [if_pos hi]
  · next hi =>
    cases h₆
    rw [if_neg hi]
    exact keeps.size_le

/-- A document that an event includes shares the table `t` if the event is one of a document that
does, and asks for it. -/
theorem Moment.table_of_inclusion {m : Moment} {n : NestedLoad} {i : Inclusion} {x : Attributed}
    {tag : Xml.StartTag} (hl : l.Keeps KeepsIds) (ht : t.index < m.world.tables.size)
    (h : (startElement l m.context m.nested (m.draft.settleLanguage l) tag m.event.location).runIn
      m.world = (.ok (x, .inclusion n i), v)) :
    i.context.table = t ↔ m.context.table = t ∧ isInline x.element = true := by
  simp only [startElement, Op.bind_runIn_eq_ok] at h
  obtain ⟨found, u, hf, y, u', ha, h⟩ := h
  have keeps : KeepsIds m.world u' := Lasting.trans ((hl.classify _ _ _).lasts hf)
    ((Op.Keeps.foldlM (Attributed.keeps_add _ _)).lasts ha)
  split at h
  · simp only [Op.bind_runIn_eq_ok] at h
    obtain ⟨⟨n, i⟩, _, hp, h⟩ := h
    cases h
    have table := prepareInclusion_table hp
    split at table
    · next hi => simp [table, hi]
    · next hi =>
      have hn : i.context.table ≠ t := by
        rintro rfl
        exact absurd (Nat.lt_of_lt_of_le ht keeps.size_le) (Nat.not_lt.2 table)
      simp [hn, hi]
  · simp only [Op.bind_runIn_eq_ok] at h
    obtain ⟨_, _, -, h⟩ := h
    cases h
  · cases h

/-- A load leaves the ids of its table where they are, and adds those of the elements that end in
its documents, in the order of their ends and with the values the elements have: all of them if it
succeeds, and at least all but the last if it fails. The documents meant are the outer one and those
that are included inline from one of them. -/
theorem ids_of_load (l : Loader) (hl : l.Keeps KeepsIds) (c : DocumentContext) (source : String)
    (w : World) (ht : c.table.index < w.tables.size) :
    let ms := l.moments c source w
    let r := (l.loadOuter c source).runIn w
    let declared := (declare l c.table [] ms).2
    (∃ added, (r.2.table c.table).toList = (w.table c.table).toList ++ added ∧ added <+: declared ∧
      declared.length ≤ added.length + 1 ∧ ∀ o, r.1 = .ok o → added = declared) ∧
    ∀ m ∈ ms, ∀ tag x n i v, m.event.event = .start tag →
      (startElement l m.context m.nested (m.draft.settleLanguage l) tag m.event.location).runIn
        m.world = (.ok (x, .inclusion n i), v) →
      (i.context.table = c.table ↔ m.context.table = c.table ∧ isInline x.element = true) := by
  obtain ⟨hms, added⟩ := adds_loadNested (t := c.table) hl l.maxDepth c [] source w ht
  refine ⟨?_, fun m hm tag x n i v _ h => Moment.table_of_inclusion hl (hms m hm) h⟩
  have outer : Adds c.table (declare l c.table [] (l.moments c source w)).2 w
      ((l.loadOuter c source).runIn w) := by
    have nested := (added []).1
    unfold Loader.loadOuter
    rw [Op.bind_runIn]
    cases hr : (loadNested l l.maxDepth c [] source).runIn w with
    | mk r u =>
      rw [hr] at nested
      cases r with
      | error e => exact nested.of_error rfl
      | ok o => exact nested.then_keeps (Lasting.refl u)
  exact outer.added

/-- A document with an id inside another one with ids: the first is registered first, before the id
of the element that includes it, and all of them come after an id that was there. -/
theorem ids_of_inline_include :
    let b := "<B bxml:id='b'/>"
    let a := "<A bxml:id='a'><x><bxml:include bxml:id='i' src='/' inline='true'/></x></A>"
    let files := MemoryStore.empty.insert .fileRoot (Url.utf8 b.toList)
    let l : Loader := { Loader.plain with provider := files.provider }
    let c : DocumentContext := ⟨none, ⟨0⟩, none, 0, .nothing⟩
    let w := (World.empty.allocTable (Entries.empty.insert "z" .null)).2
    l.Keeps KeepsIds ∧ c.table.index < w.tables.size ∧
      (((l.loadOuter c a).runIn w).2.table c.table).toList =
        [("z", .null), ("b", .object ⟨1⟩), ("i", .object ⟨1⟩), ("a", .object ⟨0⟩)] := by
  intro b a files l c w
  have hl : l.Keeps KeepsIds := Loader.plain_keeps _
  have ht : c.table.index < w.tables.size := by decide
  refine ⟨hl, ht, ?_⟩
  obtain ⟨⟨added, hr, -, -, hok⟩, -⟩ := ids_of_load l hl c a w ht
  have loaded : ((l.loadOuter c a).runIn w).1.isOk = true := by decide +kernel
  have declared : (declare l c.table [] (l.moments c a w)).2 =
      [("b", .object ⟨1⟩), ("i", .object ⟨1⟩), ("a", .object ⟨0⟩)] := by decide +kernel
  rw [hr]
  cases ho : ((l.loadOuter c a).runIn w).1 with
  | error e =>
    rw [ho] at loaded
    cases loaded
  | ok o =>
    rw [hok o ho, declared]
    rfl

end Bxml
