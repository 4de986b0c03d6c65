import Bxml.Proofs.Zones.Collecting
import Bxml.Proofs.Zones.Declared

/-!
# The content of a container

From the start of an element that stands for a container to its end, the list of the container gets
what the events inside the element put into it, in their order, and nothing else.  While it is open
nothing but the element leads to the container; when it ends, the container is handed to its parent,
and everybody may learn of the list, but nobody changes it.

`contents_of_load` is the result.  `entries` reads off the moments of the document what is put into
the list, and `onlyAppends` excepts the events that set an item by its index (`contents_replaced` is
a panel that loses its text in that way).  The proof has two parts, with a zone of
`Zones/Containers.lean` for each: while the element is open, `Collects.takeEvents` follows the
content event by event; afterwards `Holds.keeps_of_added` and `Holds.compose_keeps` say that the
list is kept by an object whose parent has it.  `Container.IsRespected` is what is asked of hosts
and factories.
-/

namespace Bxml

section

variable (l : Loader) (c : DocumentContext) (nested : Option NestedLoad)

/-- The moments in which a document takes some events itself, without those of the documents that it
includes. -/
def ownMoments (items : List Xml.Located) (d : Draft) (w : World) : List Moment :=
  momentsFrom l c nested (fun _ _ _ _ => []) items d w

variable {l c nested}

theorem ownMoments_cons {x : Xml.Located} {r : List Xml.Located} {d d' : Draft} {w w' : World}
    (h : (d.step l c nested x).runIn w = (.ok d', w')) :
    ownMoments l c nested (x :: r) d w =
      ⟨c, nested, d, x, w⟩ :: ownMoments l c nested r d' w' := by
  have inside (m : Moment) : m.inside l (fun _ _ _ _ => []) = [] := by
    unfold Moment.inside
    split
    · split <;> rfl
    · rfl
  have result : (Moment.mk c nested d x w).result l = (.ok d', w') := h
  unfold ownMoments
  rw [momentsFrom, inside, result]
  rfl

end

namespace Container

section

variable (C : Container) (n : Nat) (moments : List Moment)

/-- What the events of some moments inside the object put into its list, in their order.  Around the
content of the object `n` elements are open. -/
def entries : List Value :=
  moments.filterMap fun m => C.added? (m.draft.above n) m.event.event

/-- Whether the events of some moments inside the object set no item of its list. -/
def onlyAppends : Bool := moments.all fun m => C.appends (m.draft.above n)

end

variable {C : Container} {l : Loader} {c : DocumentContext} {nested : Option NestedLoad}
  {d d' : Draft} {e : Element} {outer : List Element} {items : List Value} {v w w' : World}
  {x : Xml.Located}

variable (C) in
/-- Whether an object that has just been made is all that leads to its list, and nothing in the world
or in the document leads to the object. -/
structure IsFresh (c : DocumentContext) (d : Draft) (items : List Value) (w : World) : Prop where
  holds : C.Holds items w
  stack : ∀ e ∈ d.stack, e.value.Avoids C.hidden
  bundle : c.IsIn (C.inside items)

/-! ## The start -/

/-- An element has started for which a container was made. -/
theorem IsFresh.collects (fresh : C.IsFresh c d items v) {tag : Xml.StartTag} (ht : tag.IsInstance)
    (made : (l.factory.construct (qualifiedType tag.namespaceUri tag.name)).runIn w =
      (.ok C.object, v))
    (hx : x.event = .start tag) (h : (d.step l c nested x).runIn w = (.ok d', w')) :
    ∃ e, d'.stack = e :: d.stack ∧ C.IsElement e ∧ e.attributes.All (Value.Avoids C.hidden) ∧
      C.Collects (e :: d.stack) items d' w' := by
  have found : (classify l d.stack tag x.location).runIn w =
      (.ok ⟨.instanceOf, tag.name, .object C.object⟩,
        v.log .trace s!"Constructed {qualifiedType tag.namespaceUri tag.name}") := by
    rw [Twins.classify_of_instance ht]
    unfold classifyInstance
    dsimp only
    rw [Op.bind_runIn_of_ok (Op.mapError_runIn_eq_ok.2 made)]
    rfl
  have started {y : Attributed} {origin : Origin NestedLoad} {u : World}
      (hs : (startElement l c nested (d.settleLanguage l) tag x.location).runIn w =
        (.ok (y, origin), u)) :
      origin = .known (.object C.object) ∧ y.element.kind = .instanceOf ∧
        y.element.attributes.All (Value.Avoids C.hidden) ∧ C.Holds items u := by
    obtain ⟨f, u', v', hf, hy, ho⟩ := startElement_eq_ok hs
    cases hf.symm.trans found
    have new : (⟨.new .instanceOf tag.name (.object C.object) x.location, []⟩ : Attributed).Fits
        (C.inside items) ⟨.instanceOf, tag.name, .object C.object⟩ := ⟨rfl, rfl, .empty, nofun⟩
    have added := Op.StaysIn.foldlM (l := tag.attributes) new fun y a hy =>
      fresh.bundle.add tag.namespaceUri hy a
    have holds := (C.inside items).emit fresh.holds
      (.log .trace s!"Constructed {qualifiedType tag.namespaceUri tag.name}")
    have fits := added.of_ok holds hy
    have holds := added.world holds hy
    cases origin with
    | inclusion n i => cases ho
    | known a =>
      rcases ho with ⟨hk, -⟩ | ⟨-, -, rfl, rfl⟩
      · cases hk
      · exact ⟨congrArg _ fits.value, fits.kind, fits.attributes, holds⟩
  rw [Draft.step_of_start hx] at h
  obtain ⟨y, u, ⟨_, _, _, _, _, hs, -, -⟩ | ⟨a, hs, hp⟩⟩ := Draft.openElement_eq_ok h
  · cases (started hs).1
  · obtain ⟨ho, kind, attributes, holds⟩ := started hs
    cases ho
    obtain ⟨rfl, bindings, rfl⟩ := Draft.push_eq_ok hp
    exact ⟨_, rfl, ⟨kind, rfl⟩, attributes, holds, [], rfl, .nil⟩

/-! ## The events inside -/

/-- The list gets what the events inside the element put into it. -/
theorem Collects.takeEvents (hl : C.IsRespected l) (hc : ∀ items, c.IsIn (C.inside items))
    (hn : ∀ n, nested = some n → ∀ items, NestedLoad.StaysIn (C.inside items) n)
    (he : C.IsElement e) (h : C.Collects (e :: outer) items d w) {content : List Xml.Located}
    {n m : Nat} (hd : d.stack.length = n + (e :: outer).length)
    (hm : Xml.levelAfter n content = some m)
    (hq : C.onlyAppends (e :: outer).length (ownMoments l c nested content d w) = true)
    (hr : (takeEvents l c nested d content).runIn w = (.ok d', w')) :
    C.Collects (e :: outer)
        (items ++ C.entries (e :: outer).length (ownMoments l c nested content d w)) d' w' ∧
      d'.stack.length = m + (e :: outer).length := by
  induction content generalizing d w items n with
  | nil =>
    cases hr
    cases hm
    exact ⟨(List.append_nil items).symm ▸ h, hd⟩
  | cons y r ih =>
    obtain ⟨a, u, ha, hr⟩ := takeEvents_cons_eq_ok.1 hr
    obtain ⟨j, hj, hm⟩ := Xml.levelAfter_cons_eq_some.1 hm
    rw [ownMoments_cons ha, onlyAppends, List.all_cons, Bool.and_eq_true] at hq
    have inner (hy : y.event = .close) : d.above (e :: outer).length ≠ [] := by
      intro hempty
      have length : n = 0 := by
        rw [← Nat.add_sub_cancel (n := n) (m := (e :: outer).length), ← hd, ← Draft.length_above,
          hempty]
        rfl
      rw [hy, length] at hj
      cases hj
    have level : a.stack.length = j + (e :: outer).length := by
      have step := Draft.levelAfter_step ha
      rw [hd, Xml.Event.levelAfter_add hj] at step
      exact (Option.some.inj step).symm
    have collected := ih (h.step hl hc he hn inner hq.1 ha) level hm hq.2 hr
    rw [List.append_assoc] at collected
    rw [ownMoments_cons ha, entries, List.filterMap_cons]
    generalize C.added? (d.above (e :: outer).length) y.event = a at collected ⊢
    cases a <;> exact collected

/-! ## The end -/

/-- An object that is added to another one keeps its list. -/
theorem Holds.keeps_of_added (h : C.Holds items w) (hl : C.IsRespected l) {k : Held} {o : ObjectId}
    (ho : ¬ C.hidden o) {a : Value} (added : Added l k o a w w') : C.Keeps items w' := by
  cases added with
  | item => exact h.keeps.append (ne_list_of_not_hidden ho) a
  | listed _ hp =>
    have avoids := (h.hides.object o ho).getProperty hp
    exact h.keeps.append (ne_list_of_not_hidden (Value.avoids_object.1 avoids)) a
  | stored _ hs =>
    exact ((hl.outside items).host.setProperty _ _ (ne_list_of_not_hidden ho) trivial).world h.keeps hs

/-- An object that is handed to the element around it keeps its list. -/
theorem Holds.compose_keeps (h : C.Holds items w) (hl : C.IsRespected l)
    (outside : ∀ p ∈ d.stack, p.value.Avoids C.hidden)
    (hr : (compose l c d e).runIn w = (.ok d', w')) : C.Keeps items w' := by
  obtain ⟨-, -, rfl⟩ | ⟨r, parented, receiver, -, taken⟩ := compose_eq_ok hr
  · exact h.keeps
  · cases r with
    | element =>
      cases taken
      exact h.keeps
    | object o =>
      obtain ⟨p, hp, hv⟩ := value_of_receiver? receiver
      have avoids := outside p (List.mem_of_head? hp)
      rw [hv] at avoids
      unfold Receiver.take at taken
      dsimp only at taken
      rw [Op.bind_runIn_eq_ok] at taken
      obtain ⟨_, u, ha, taken⟩ := taken
      cases taken
      rcases addChild_cases l (d.held c e.heldValues) o e.value e.location w with
        ⟨v, hok, added⟩ | ⟨_, _, herror, -⟩
      · cases hok.symm.trans ha
        exact h.keeps_of_added hl (Value.avoids_object.1 avoids) added
      · cases herror.symm.trans ha

/-- The end of the element itself leaves the list alone. -/
theorem Holds.keeps_of_close (h : C.Holds items w) (hl : C.IsRespected l) (he : C.IsElement e)
    (ha : e.attributes.All (Value.Avoids C.hidden))
    (outside : ∀ p ∈ outer, p.value.Avoids C.hidden) (hs : d.stack = e :: outer)
    (hx : x.event = .close) (hr : (d.step l c nested x).runIn w = (.ok d', w')) :
    C.Keeps items w' := by
  rw [Draft.step_of_close hx] at hr
  obtain ⟨e', outer', d₁, u, hs', hclose, hid, -⟩ := Draft.closeElement_eq_ok hr
  obtain ⟨rfl, rfl⟩ := List.cons.inj (hs.symm.trans hs')
  have object (o : ObjectId) (ho : e.value.object? = some o) : o ≠ C.list := by
    rw [he.value] at ho
    cases ho
    exact h.object_ne_list
  rw [closeAs_of_isComposed (by rw [he.kind]; rfl)] at hclose
  simp only [Op.bind_runIn_eq_ok] at hclose
  obtain ⟨_, u₁, hset, d₂, u₂, hcompose, _, _, hattach, hclose⟩ := hclose
  cases hclose
  have set : C.Holds items u₁ := ((hl.inside items).applyAttributes _ object ha).world h hset
  have handed : C.Keeps items u₂ := set.compose_keeps hl outside hcompose
  have anything : c.IsIn (C.outside items) := fun _ _ _ _ _ _ _ => trivial
  have attached : C.Keeps items u :=
    ((hl.outside items).applyAttachedAttributes anything _ _ object).world handed hattach
  exact ((hl.outside items).registerId c _ trivial object).world attached hid

end Container

/-! ## Documents that load -/

/-- An instance in a document that loads may be of a type that makes a list of its own for the default
property.  When the instance ends, the list has its initial items and then, in document order, what the
content of the instance puts into it, unless that sets items through their indices. -/
theorem contents_of_load (l : Loader) (n : Nat) (c : DocumentContext) (parented : List ObjectId)
    (source : String) (w : World) :
    let taken (items : List Xml.Located) :=
      (takeEvents l c (l.deeper n) (.start parented) items).runIn (c.announce w)
    ∀ r w', (loadNested l n c parented source).runIn w = (.ok r, w') →
      ∀ before (E : Xml.Markup) after, (Xml.events source).items = before ++ (E.items ++ after) →
        E.tag.IsInstance →
        ∃ d₀ w₀ d₁ w₁ d₂ w₂, taken before = (.ok d₀, w₀) ∧
          taken (before ++ [E.opening]) = (.ok d₁, w₁) ∧ taken (before ++ E.items) = (.ok d₂, w₂) ∧
          ∀ (C : Container) items v,
            (l.factory.construct (qualifiedType E.tag.namespaceUri E.tag.name)).runIn w₀ =
              (.ok C.object, v) →
            C.IsFresh c d₀ items v → C.IsRespected l →
            let moments := ownMoments l c (l.deeper n) E.content d₁ w₁
            C.onlyAppends d₁.stack.length moments = true →
              (w₂.object C.list).content =
                .list (items ++ C.entries d₁.stack.length moments) := by
  intro taken r w' h before E after hi ht
  rw [loadNested_eq, loadWith_runIn, Op.bind_runIn_eq_ok, hi] at h
  obtain ⟨last, z, run, -⟩ := h
  obtain ⟨d₀, w₀, hb, run⟩ := takeEvents_append_eq_ok.1 run
  obtain ⟨d₂, w₂, hE, -⟩ := takeEvents_append_eq_ok.1 run
  obtain ⟨d₁, w₁, ho, run⟩ := takeEvents_cons_eq_ok.1 hE
  obtain ⟨d, u, hcontent, run⟩ := takeEvents_append_eq_ok.1 run
  obtain ⟨a, b, hclose, hend⟩ := takeEvents_cons_eq_ok.1 run
  cases hend
  have opened : taken (before ++ [E.opening]) = (.ok d₁, w₁) :=
    takeEvents_append_eq_ok.2 ⟨d₀, w₀, hb, takeEvents_cons_eq_ok.2 ⟨d₁, w₁, ho, rfl⟩⟩
  have ended : taken (before ++ E.items) = (.ok d₂, w₂) :=
    takeEvents_append_eq_ok.2 ⟨d₀, w₀, hb, hE⟩
  refine ⟨d₀, w₀, d₁, w₁, d₂, w₂, hb, opened, ended, ?_⟩
  intro C items v made fresh hl moments hq
  obtain ⟨e, hs, he, attributes, begun⟩ := fresh.collects ht made E.opening_event ho
  have length : d₁.stack.length = (e :: d₀.stack).length := congrArg List.length hs
  have bundle (items' : List Value) : c.IsIn (C.inside items') := fresh.bundle
  have nested (k : NestedLoad) (hk : l.deeper n = some k) (items' : List Value) :
      NestedLoad.StaysIn (C.inside items') k := by
    cases n with
    | zero => cases hk
    | succ n =>
      cases hk
      exact (hl.inside items').loadNested (C.isSealed_inside items') n
  rw [length] at hq ⊢
  obtain ⟨⟨holds, inner, hstack, -⟩, level⟩ := begun.takeEvents hl bundle nested he
    (length.trans (Nat.zero_add _).symm) E.balanced hq hcontent
  -- the element itself is the innermost one again
  have empty : inner = [] := by
    rw [hstack, List.length_append] at level
    exact List.length_eq_zero_iff.1 (Nat.add_right_cancel level)
  rw [empty] at hstack
  exact (holds.keeps_of_close hl he attributes fresh.stack hstack E.closing_event hclose).list

/-- A type the objects of which have a list of their own for what is inside them. -/
def panelType : TypeDescriptor where
  name := "Panel"
  properties := Entries.empty.insert "children" (.readOnly fun w =>
    (.object (w.alloc (.ofItems [])).1, (w.alloc (.ofItems [])).2))
  defaultProperty := some "children"
  idProperty := none

/-- The loader of documents that consist of panels. -/
def Loader.panels : Loader :=
  { Loader.plain with factory := (TypeRegistry.empty.register panelType).factory }

/-- Nothing outside of a load of panels touches their lists. -/
theorem Container.isRespected_panels (C : Container) : C.IsRespected .panels := by
  have registered (Z : Zone) : Loader.panels.StaysIn Z := by
    refine (TypeRegistry.StaysIn.empty.register (Entries.All.empty.insert _ ?_)).loader rfl rfl
    refine .readOnly fun w hw => ?_
    have made := Z.alloc hw (c := .list []) (.list nofun)
    exact ⟨made.2.2, made.1⟩
  exact ⟨fun _ => registered _, fun _ _ _ _ _ _ _ holds => holds, fun _ => (registered _).toSetsIn⟩

/-- The first panel in a world, with its list. -/
def firstPanel : Container := ⟨⟨1⟩, "children", ⟨0⟩⟩

theorem firstPanel_holds {w : World} (ho : w.objects = #[]) (ht : ∀ t, w.table t = .empty) :
    (panelType.instantiate w).1 = firstPanel.object ∧
      firstPanel.Holds [] (panelType.instantiate w).2 := by
  obtain ⟨objects, tables, trace, exhausted⟩ := w
  cases ho
  refine ⟨rfl, ⟨?exist, ?object, ?table⟩, ⟨rfl, ?bean⟩, rfl⟩
  case exist =>
    rintro _ (rfl | rfl)
    · exact Nat.one_lt_two
    · exact Nat.two_pos
  case object =>
    intro o ho
    have absent : ¬ o.index < 2 := by
      intro hi
      obtain ⟨_ | _ | i⟩ := o
      · exact ho (.inr rfl)
      · exact ho (.inl rfl)
      · exact absurd hi (Nat.not_lt.2 (Nat.le_add_left 2 i))
    have state : (panelType.instantiate ⟨#[], tables, trace, exhausted⟩).2.object o = default :=
      dif_neg absent
    rw [state]
    exact ⟨.dictionary .empty, nofun⟩
  case table =>
    intro t
    have ids : (panelType.instantiate ⟨#[], tables, trace, exhausted⟩).2.table t = .empty := ht t
    rw [ids]
    exact .empty
  case bean =>
    refine ⟨_, rfl, rfl, rfl, Entries.All.ofList (l := [("children", Slot.readOnly (.object ⟨0⟩))]) ?_⟩
    rw [List.forall_mem_singleton]
    rintro _ ⟨⟩ ⟨⟩

/-- The first panel is fresh when a document begins that is told of no objects. -/
theorem firstPanel_isFresh {w : World} (ho : w.objects = #[]) (ht : ∀ t, w.table t = .empty)
    {c : DocumentContext} (hc : c.bundle = none) (parented : List ObjectId) :
    firstPanel.IsFresh c (.start parented) [] (panelType.instantiate w).2 where
  holds := (firstPanel_holds ho ht).2
  stack := by
    rintro e ⟨⟩
  bundle := by
    intro b hb
    rw [hc] at hb
    cases hb

/-- A panel with a text and, in the property that stands for its list, another panel. -/
def nestedPanels : String := "<Panel>first<children><Panel/></children></Panel>"

/-- The only outermost element of that document. -/
def outerPanel : Xml.Markup where
  tag := ⟨none, none, "Panel", []⟩
  opening := Xml.Event.inColumn (.start ⟨none, none, "Panel", []⟩) 1
  content := [⟨.characters "first", ⟨1, 8⟩, ⟨1, 13⟩⟩,
    Xml.Event.inColumn (.start ⟨none, none, "children", []⟩) 13,
    Xml.Event.inColumn (.start ⟨none, none, "Panel", []⟩) 23,
    Xml.Event.inColumn .close 31, Xml.Event.inColumn .close 31]
  closing := Xml.Event.inColumn .close 42
  opening_event := rfl
  closing_event := rfl
  balanced := rfl

/-- When the outer panel ends, its list has the text and the other panel. -/
theorem contents_of_nestedPanels :
    let c := DocumentContext.outer none
    ((loadNested .panels 0 c [] nestedPanels).runIn .blank).1.isOk = true ∧
      ∃ d w, (takeEvents .panels c none (.start []) (Xml.events nestedPanels).items).runIn
          (c.announce .blank) = (.ok d, w) ∧
        (w.object firstPanel.list).content = .list [.string "first", .object ⟨3⟩] := by
  intro c
  have loads : ((loadNested .panels 0 c [] nestedPanels).runIn .blank).1.isOk = true := by
    decide +kernel
  refine ⟨loads, ?_⟩
  have items : (Xml.events nestedPanels).items = [] ++ (outerPanel.items ++ []) := by
    decide +kernel
  have reached : (fun r : Except LoadError Draft × World => r.1.toOption.map fun d =>
      let moments := ownMoments .panels c none outerPanel.content d r.2
      (firstPanel.onlyAppends d.stack.length moments, firstPanel.entries d.stack.length moments))
        ((takeEvents .panels c none (.start []) [outerPanel.opening]).runIn (c.announce .blank)) =
          some (true, [.string "first", .object ⟨3⟩]) := by
    decide +kernel
  rcases loaded : (loadNested .panels 0 c [] nestedPanels).runIn .blank with ⟨e | r, w'⟩
  · rw [loaded] at loads
    cases loads
  obtain ⟨d₀, w₀, d₁, w₁, d₂, w₂, hb, ho, hE, contents⟩ :=
    contents_of_load .panels 0 c [] nestedPanels .blank r w' loaded [] outerPanel [] items
      ⟨nofun, by decide +kernel, by decide +kernel⟩
  cases hb
  have ids (t : TableId) : (c.announce .blank).table t = .empty := by
    obtain ⟨_ | i⟩ := t <;> rfl
  have made := firstPanel_holds (w := c.announce .blank) rfl ids
  have constructed : (Loader.panels.factory.construct "Panel").runIn (c.announce .blank) =
      (.ok firstPanel.object, (panelType.instantiate (c.announce .blank)).2) := by
    rw [← made.1]
    rfl
  have fresh := firstPanel_isFresh (c := c) (w := c.announce .blank) rfl ids rfl []
  have run : (takeEvents .panels c none (.start []) [outerPanel.opening]).runIn
      (c.announce .blank) = (.ok d₁, w₁) := ho
  rw [run] at reached
  obtain ⟨onlyAppends, entries⟩ := Prod.mk.inj (Option.some.inj reached)
  have ended : (takeEvents .panels c none (.start []) (Xml.events nestedPanels).items).runIn
      (c.announce .blank) = (.ok d₂, w₂) := by
    rw [items, List.append_nil]
    exact hE
  have list := contents firstPanel [] _ constructed fresh firstPanel.isRespected_panels onlyAppends
  exact ⟨d₂, w₂, ended, list.trans (congrArg Content.list entries)⟩

/-- What becomes of some events of a document of panels. -/
def takePanels (items : List Xml.Located) : Except LoadError Draft × World :=
  (takeEvents .panels (.outer none) none (.start []) items).runIn
    ((DocumentContext.outer none).announce .blank)

/-- What the content of the only outermost panel of a document puts into its list. -/
def panelEntries (items : List Xml.Located) : Option (List Value) :=
  let (r, w) := takePanels (items.take 1)
  r.toOption.map fun d => firstPanel.entries d.stack.length
    (ownMoments .panels (.outer none) none (items.drop 1).dropLast d w)

/-- A panel loses its text if an element in the property that stands for its list, or an attribute of
that property, sets the first item. -/
theorem contents_replaced :
    firstPanel.IsFresh (.outer none) (.start []) []
        (panelType.instantiate ((DocumentContext.outer none).announce .blank)).2 ∧
      firstPanel.IsRespected .panels ∧
      ∀ source ∈ ["<Panel>first<children><0>second</0></children></Panel>",
          "<Panel>first<children 0='second'/></Panel>"],
        ((loadNested .panels 0 (.outer none) [] source).runIn .blank).1.isOk = true ∧
          panelEntries (Xml.events source).items = some [.string "first"] ∧
          ((takePanels (Xml.events source).items).2.object firstPanel.list).sequence? =
            some [.string "second"] := by
  have ids (t : TableId) : ((DocumentContext.outer none).announce .blank).table t = .empty := by
    obtain ⟨_ | i⟩ := t <;> rfl
  refine ⟨firstPanel_isFresh rfl ids rfl [], firstPanel.isRespected_panels, ?_⟩
  decide +kernel

end Bxml
