import Bxml.Proofs.Load.Failures
import Mathlib.Data.List.Nodup

/-!
# Parents

The end of an element offers its value to the element around it.  This file lists what the moments
of a load hand over, across all documents of the load, and compares it with the record of the
objects that have a parent: at every moment the record consists of the objects that were handed
over before, `follows_moments`.  So no object is handed over twice, and an offer that would do so
ends the load and changes nothing.

* `Moment.closing?`, `Moment.offer?` and `Moment.handOver?` read off a moment which element ends,
  what it offers and whether the offer goes through; `handed` lists the objects that some moments
  hand over.
* `Follows` is the invariant on the record, by induction over the load (`follows_momentsNested`).
* `single_parent` is the result, for all documents of a load: no object is handed over twice
  (`handed_nodup`), and the moment that would do so fails and leaves the objects as they are.
-/

namespace Bxml

/-- The end of an element whose value goes to its parent, when its attributes have been set. -/
structure Closing where
  element : Element
  /-- The open elements around it. -/
  outer : List Element
  world : World

/-- An object that a closed element offers to its receiver. -/
structure Offer where
  child : ObjectId
  receiver : Receiver
  closing : Closing

/-- The failure of an offer whose object has a parent. -/
def Offer.secondParent (x : Offer) : LoadError :=
  .structural (.alreadyParented (x.closing.world.typeName x.child)) x.closing.element.location

namespace Moment

variable (l : Loader) (m : Moment)

/-- The draft inside which a closed element is composed. -/
def around (k : Closing) : Draft := { m.draft with stack := k.outer }

/-- The element that the event closes, if its value goes to its parent and its attributes can be
set. -/
def closing? : Option Closing :=
  match m.event.event, m.draft.stack with
  | .close, e :: outer =>
    if e.kind.isComposed then
      let d := { m.draft with stack := outer }
      match (applyAttributes l (d.held m.context e.heldValues) e).runIn m.world with
      | (.ok (), w) => some ⟨e, outer, w⟩
      | _ => none
    else none
  | _, _ => none

/-- What composition does to a closed element. -/
def composition (k : Closing) : Except LoadError Draft × World :=
  (compose l m.context (m.around k) k.element).runIn k.world

/-- The object that the event offers to a receiver. -/
def offer? : Option Offer :=
  (m.closing? l).bind fun k =>
    match receiver? k.outer k.element.location with
    | .ok (some r) => k.element.value.object?.map fun o => ⟨o, r, k⟩
    | _ => none

/-- Whether an offer goes through. -/
def accepts (x : Offer) : Bool :=
  ((adopt (.object x.child) x.closing.element.location m.draft.parented).runIn
    x.closing.world).1.isOk

/-- The object that the event hands over to a receiver. -/
def handOver? : Option Offer := (m.offer? l).filter m.accepts

/-- The object that the event gives a parent. -/
def handed? : Option ObjectId := (m.handOver? l).map Offer.child

end Moment

/-- The objects that some moments give a parent, in their order. -/
def handed (l : Loader) (ms : List Moment) : List ObjectId := ms.filterMap (Moment.handed? l)

variable {l : Loader} {c : DocumentContext} {d d' : Draft} {w w' : World} {m : Moment}

/-! ## What an event hands over -/

namespace Moment

theorem closing?_eq_some {k : Closing} (h : m.closing? l = some k) :
    m.event.event = .close ∧ m.draft.stack = k.element :: k.outer ∧
      k.element.kind.isComposed = true ∧
      (applyAttributes l ((m.around k).held m.context k.element.heldValues) k.element).runIn
        m.world = (.ok (), k.world) := by
  unfold closing? at h
  split at h
  · next e outer he hs =>
    split at h
    · next hk =>
      dsimp only at h
      split at h
      · next u hu =>
        cases h
        exact ⟨he, hs, hk, hu⟩
      · cases h
    · cases h
  · cases h

theorem closing?_of_close {e : Element} {outer : List Element} (he : m.event.event = .close)
    (hs : m.draft.stack = e :: outer) (hk : e.kind.isComposed = true)
    (ha : (applyAttributes l ({ m.draft with stack := outer }.held m.context e.heldValues) e).runIn
      m.world = (.ok (), w)) : m.closing? l = some ⟨e, outer, w⟩ := by
  unfold closing?
  rw [he, hs]
  dsimp only
  rw [if_pos hk, ha]

theorem offer?_eq_some {x : Offer} (h : m.offer? l = some x) :
    m.closing? l = some x.closing ∧ x.closing.element.value = .object x.child ∧
      receiver? x.closing.outer x.closing.element.location = .ok (some x.receiver) := by
  obtain ⟨k, hk, h⟩ := Option.bind_eq_some_iff.1 h
  split at h
  · next r hr =>
    obtain ⟨o, ho, rfl⟩ := Option.map_eq_some_iff.1 h
    exact ⟨hk, Value.object?_eq_some.1 ho, hr⟩
  · cases h

/-- An offer goes through unless the record has its object. -/
theorem accepts_iff {x : Offer} : m.accepts x = true ↔ x.child ∉ m.draft.parented := by
  unfold accepts
  by_cases h : x.child ∈ m.draft.parented
  · rw [adopt_of_mem h]
    simp [h, Except.isOk, Except.toBool]
  · rw [adopt_eq_ok.2 ⟨rfl, by rintro _ ⟨⟩; exact h, rfl⟩]
    simp [h, Except.isOk, Except.toBool]

theorem handOver?_eq_some {x : Offer} :
    m.handOver? l = some x ↔ m.offer? l = some x ∧ x.child ∉ m.draft.parented := by
  unfold handOver?
  rw [Option.filter_eq_some_iff, accepts_iff]

theorem handed?_eq_some {o : ObjectId} (h : m.handed? l = some o) :
    ∃ x, m.handOver? l = some x ∧ x.child = o := by
  simpa [handed?] using h

/-- Only the end of an element hands something over. -/
theorem handed?_of_not_close (h : m.event.event ≠ .close) : m.handed? l = none := by
  cases hx : m.handed? l with
  | none => rfl
  | some o =>
    obtain ⟨x, hx, -⟩ := handed?_eq_some hx
    exact absurd (closing?_eq_some (offer?_eq_some (handOver?_eq_some.1 hx).1).1).1 h

theorem closing?_of_not_isComposed {e : Element} {outer : List Element}
    (hs : m.draft.stack = e :: outer) (hk : e.kind.isComposed = false) :
    m.closing? l = none := by
  cases hx : m.closing? l with
  | none => rfl
  | some k =>
    obtain ⟨-, hs', hk', -⟩ := closing?_eq_some hx
    rw [hs] at hs'
    cases hs'
    rw [hk] at hk'
    cases hk'

/-- What composition adds to the record is what the event hands over. -/
theorem parented_of_composition {k : Closing} (hk : m.closing? l = some k)
    (h : m.composition l k = (.ok d', w')) :
    d'.parented = (m.handed? l).toList ++ m.draft.parented := by
  rcases compose_eq_ok h with ⟨hr, rfl, -⟩ | ⟨r, parented, hr, ha, ht⟩
  · have ho : m.offer? l = none := by
      simp only [offer?, hk, Option.bind_some]
      change receiver? k.outer k.element.location = .ok none at hr
      simp only [hr]
    simp [handed?, handOver?, ho, around]
  · obtain ⟨-, hn, rfl⟩ := adopt_eq_ok.1 ha
    have hd : d'.parented = k.element.value.object?.toList ++ m.draft.parented := by
      rw [Receiver.take_eq_ok ht]
      cases r <;> simp [around]
    rw [hd]
    change receiver? k.outer k.element.location = .ok (some r) at hr
    have ho : m.offer? l = k.element.value.object?.map fun o => ⟨o, r, k⟩ := by
      simp only [offer?, hk, Option.bind_some, hr]
    cases hv : k.element.value.object? with
    | none => simp [handed?, handOver?, ho, hv]
    | some o =>
      rw [hv] at ho
      have hx : m.handOver? l = some ⟨o, r, k⟩ :=
        handOver?_eq_some.2 ⟨ho, hn o (Value.object?_eq_some.1 hv)⟩
      simp [handed?, hx]

/-- What an event that includes no document adds to the record is what it hands over. -/
theorem parented_of_result (hi : m.included? l = none) (h : m.result l = (.ok d', w')) :
    d'.parented = (m.handed? l).toList ++ m.draft.parented := by
  unfold result Draft.step at h
  split at h
  · next he =>
    rw [handed?_of_not_close (by simp [he]), Draft.addInstruction_eq_ok h]
    rfl
  · next tag he =>
    rw [handed?_of_not_close (by simp [he])]
    obtain ⟨x, u, ⟨n, i, v, parented, z, hs, -, -⟩ | ⟨v, -, hp⟩⟩ := Draft.openElement_eq_ok h
    · simp [included?, he, hs] at hi
    · obtain ⟨-, bindings, rfl⟩ := Draft.push_eq_ok hp
      rfl
  · next he =>
    obtain ⟨e, outer, d₁, u, hs, hc, -, hd⟩ := Draft.closeElement_eq_ok h
    have hd' : d'.parented = d₁.parented := by
      rw [hd]
      split <;> rfl
    rw [hd']
    cases hk : e.kind.isComposed with
    | false =>
      rw [closeAs_of_not_isComposed hk hc, handed?, handOver?, offer?,
        closing?_of_not_isComposed hs hk]
      rfl
    | true =>
      simp only [closeAs_of_isComposed hk, Op.bind_runIn_eq_ok] at hc
      obtain ⟨_, v, ha, d₂, _, hc, _, _, -, hd₂⟩ := hc
      cases hd₂
      exact parented_of_composition (closing?_of_close he hs hk ha) hc
  · next he =>
    rw [handed?_of_not_close (by simp [he])]
    rcases Draft.addText_eq_ok h with rfl | ⟨e, outer, v, -, -, rfl⟩ <;> rfl

end Moment

/-! ## The record of parents -/

/-- At every one of the moments `ms` the record consists of `parented` and of what the moments before
it hand over. -/
def Follows (l : Loader) : List ObjectId → List Moment → Prop
  | _, [] => True
  | parented, m :: ms => m.draft.parented = parented ∧ Follows l ((m.handed? l).toList ++ parented) ms

@[simp] theorem handed_nil : handed l [] = [] := rfl

theorem handed_cons (m : Moment) (ms : List Moment) :
    handed l (m :: ms) = (m.handed? l).toList ++ handed l ms := by
  unfold handed
  cases h : m.handed? l <;> simp [h]

@[simp] theorem handed_append (ms ns : List Moment) :
    handed l (ms ++ ns) = handed l ms ++ handed l ns := List.filterMap_append

theorem follows_append {parented : List ObjectId} {ms ns : List Moment} :
    Follows l parented (ms ++ ns) ↔
      Follows l parented ms ∧ Follows l ((handed l ms).reverse ++ parented) ns := by
  induction ms generalizing parented with
  | nil => simp [Follows]
  | cons m ms ih =>
    simp only [List.cons_append, Follows, ih, handed_cons, List.reverse_append, and_assoc]
    cases m.handed? l <;> simp

/-- What an event adds to the record is what it and the events inside it hand over. -/
theorem Moment.parented_of_inside {ms : List Moment}
    (hi : m.Inside l (fun _ parented _ ms r =>
      Follows l parented ms ∧
        ∀ o p, r.1 = .ok (o, p) → p = (handed l ms).reverse ++ parented) ms)
    (h : m.result l = (.ok d', w')) :
    Follows l m.draft.parented (m :: ms) ∧
      d'.parented = (handed l (m :: ms)).reverse ++ m.draft.parented := by
  cases hi with
  | nothing hn =>
    refine ⟨⟨rfl, trivial⟩, ?_⟩
    rw [parented_of_result hn h, handed_cons]
    cases m.handed? l <;> rfl
  | unread hn hr =>
    rw [result_of_unread hn hr] at h
    cases h
  | document hn hr hq =>
    obtain ⟨tag, x, source, outcome, parented, bindings, he, -, hr', hl, rfl⟩ :=
      result_of_included hn h
    rw [hr] at hr'
    cases hr'
    have hm : m.handed? l = none := handed?_of_not_close (by simp [he])
    rw [hl] at hq
    obtain ⟨hf, hp⟩ := hq
    refine ⟨⟨rfl, ?_⟩, ?_⟩
    · rw [hm]
      exact hf
    · rw [handed_cons, hm]
      exact hp _ _ rfl

/-- Up to an event that fails the record consists of what was handed over. -/
theorem Moment.follows_of_inside {ms : List Moment}
    (hi : m.Inside l (fun _ parented _ ms r =>
      Follows l parented ms ∧
        ∀ o p, r.1 = .ok (o, p) → p = (handed l ms).reverse ++ parented) ms) :
    Follows l m.draft.parented (m :: ms) := by
  refine ⟨rfl, ?_⟩
  cases hi with
  | nothing => trivial
  | unread => trivial
  | document hn hr hq =>
    obtain ⟨tag, _, he, -⟩ := included?_eq_some hn
    rw [handed?_of_not_close (by simp [he])]
    exact hq.1

/-- At every moment of a load the record consists of what the moments before it hand over. -/
theorem follows_momentsNested (n : Nat) (c : DocumentContext) (parented : List ObjectId)
    (source : String) (w : World) :
    Follows l parented (momentsNested l n c parented source w) ∧
      ∀ o p, ((loadNested l n c parented source).runIn w).1 = .ok (o, p) →
        p = (handed l (momentsNested l n c parented source w)).reverse ++ parented := by
  refine loadNested_induction (l := l)
    (P := fun _ d _ ms r => Follows l d.parented ms ∧
      ∀ d', r.1 = .ok d' → d'.parented = (handed l ms).reverse ++ d.parented)
    (Q := fun _ parented _ ms r => Follows l parented ms ∧
      ∀ o p, r.1 = .ok (o, p) → p = (handed l ms).reverse ++ parented)
    ?nil ?fail ?step ?abort ?complete n c parented source w
  case nil =>
    intro _ d _
    refine ⟨trivial, ?_⟩
    rintro _ ⟨⟩
    rfl
  case fail =>
    intro m ms e w hi _
    refine ⟨Moment.follows_of_inside hi, ?_⟩
    rintro _ ⟨⟩
  case step =>
    intro m ms d w ns r hi hr ⟨hf, hp⟩
    obtain ⟨hm, hd⟩ := Moment.parented_of_inside hi hr
    rw [hd] at hf hp
    refine ⟨follows_append.2 ⟨hm, hf⟩, fun d' h => ?_⟩
    rw [hp d' h, handed_append]
    simp
  case abort =>
    intro _ _ _ ms e v h
    refine ⟨h.1, ?_⟩
    rintro _ _ ⟨⟩
  case complete =>
    intro c parented es w ms d v ⟨hf, hp⟩
    refine ⟨hf, fun o p h => ?_⟩
    obtain ⟨-, -, rfl⟩ := Draft.complete_eq_ok (Prod.ext h rfl)
    exact hp d rfl

theorem nodup_of_follows {parented : List ObjectId} {ms : List Moment} (h : Follows l parented ms)
    (hp : parented.Nodup) : ((handed l ms).reverse ++ parented).Nodup := by
  induction ms generalizing parented with
  | nil => simpa using hp
  | cons m ms ih =>
    obtain ⟨hm, h⟩ := h
    have hm' : ((m.handed? l).toList ++ parented).Nodup := by
      cases ho : m.handed? l with
      | none => simpa using hp
      | some o =>
        obtain ⟨x, hx, rfl⟩ := Moment.handed?_eq_some ho
        have hn := (Moment.handOver?_eq_some.1 hx).2
        rw [hm] at hn
        exact List.nodup_cons.2 ⟨hn, hp⟩
    have hms := ih h hm'
    rw [handed_cons, List.reverse_append]
    cases ho : m.handed? l <;> simpa [ho] using hms

/-- A load hands no object over twice. -/
theorem handed_nodup (l : Loader) (c : DocumentContext) (source : String) (w : World) :
    (handed l (l.moments c source w)).Nodup := by
  have h := nodup_of_follows (follows_momentsNested (l := l) l.maxDepth c [] source w).1
    List.nodup_nil
  rw [List.append_nil, List.nodup_reverse] at h
  exact h

/-- The record at a moment of a load. -/
theorem mem_parented_iff {before after : List Moment} {source : String} {o : ObjectId}
    (h : l.moments c source w = before ++ m :: after) :
    o ∈ m.draft.parented ↔ o ∈ handed l before := by
  have hf : Follows l [] (before ++ m :: after) := h ▸ (follows_momentsNested _ c [] source w).1
  have hm := (follows_append.1 hf).2.1
  rw [hm, List.append_nil, List.mem_reverse]

/-! ## Second parents -/

namespace Moment

/-- What composition does to an object that is handed over. -/
theorem composition_of_handOver {x : Offer} (h : m.handOver? l = some x) :
    m.composition l x.closing =
      (x.receiver.take l ((m.around x.closing).held m.context x.closing.element.heldValues)
        { m.around x.closing with parented := x.child :: m.draft.parented } (.object x.child)
        x.closing.element.location).runIn x.closing.world := by
  obtain ⟨ho, hn⟩ := handOver?_eq_some.1 h
  obtain ⟨-, hv, hr⟩ := offer?_eq_some ho
  have ha : (adopt (.object x.child) x.closing.element.location m.draft.parented).runIn
      x.closing.world = (.ok (x.child :: m.draft.parented), x.closing.world) :=
    adopt_eq_ok.2 ⟨rfl, by rintro _ ⟨⟩; exact hn, rfl⟩
  unfold composition
  rw [compose_of_receiver (d := m.around x.closing) hr, hv]
  exact Op.bind_runIn_of_ok ha

/-- An object that is not handed over stays where it is. -/
theorem composition_of_handOver_none {k : Closing} {o : ObjectId} (hk : m.closing? l = some k)
    (hv : k.element.value = .object o) (h : m.handOver? l = none) :
    (m.composition l k).2 = k.world ∧
      ∀ d, (m.composition l k).1 = .ok d → d = m.around k := by
  unfold composition
  cases hr : receiver? (m.around k).stack k.element.location with
  | error e =>
    unfold compose
    rw [hr]
    exact ⟨rfl, by rintro _ ⟨⟩⟩
  | ok r =>
    cases r with
    | none =>
      unfold compose
      rw [hr]
      refine ⟨rfl, ?_⟩
      rintro _ ⟨⟩
      rfl
    | some r =>
      have ho : m.offer? l = some ⟨o, r, k⟩ := by
        change receiver? k.outer k.element.location = .ok (some r) at hr
        simp only [offer?, hk, Option.bind_some, hr, hv, Value.object?, Option.map_some]
      have hp : o ∈ (m.around k).parented := by
        by_contra hp
        rw [handOver?_eq_some.2 ⟨ho, hp⟩] at h
        cases h
      rw [compose_of_receiver hr, hv, Op.bind_runIn_of_error (adopt_of_mem hp)]
      exact ⟨rfl, by rintro _ ⟨⟩⟩

/-- The event fails that offers an object which has a parent. -/
theorem result_of_second_parent {x : Offer} (ho : m.offer? l = some x)
    (hx : x.child ∈ m.draft.parented) : m.result l = (.error x.secondParent, x.closing.world) := by
  obtain ⟨hk, hv, hr⟩ := offer?_eq_some ho
  obtain ⟨he, hs, hc, ha⟩ := closing?_eq_some hk
  have hcompose : (compose l m.context (m.around x.closing) x.closing.element).runIn
      x.closing.world = (.error x.secondParent, x.closing.world) := by
    rw [compose_of_receiver (d := m.around x.closing) hr, hv]
    exact Op.bind_runIn_of_error (adopt_of_mem hx)
  unfold result Draft.step
  rw [he]
  dsimp only
  unfold Draft.closeElement
  rw [hs]
  refine Op.bind_runIn_of_error ?_
  rw [closeAs_of_isComposed hc]
  exact (Op.bind_runIn_of_ok ha).trans (Op.bind_runIn_of_error hcompose)

end Moment

/-- Every load gives an object at most one parent. The moment that offers a parent to an object
which was handed over before fails, and the load with it; nothing has changed since the attributes
of the closed element were set. Whatever composition hands over is on the list, with the change it
makes to its receiver; it leaves any other object where it is. -/
theorem single_parent (l : Loader) (c : DocumentContext) (source : String) (w : World) :
    (handed l (l.moments c source w)).Nodup ∧
    (∀ before m after x, l.moments c source w = before ++ m :: after → m.offer? l = some x →
      x.child ∈ handed l before →
        m.result l = (.error x.secondParent, x.closing.world) ∧
        ∃ f v, (l.loadOuter c source).runIn w = (.error f, v) ∧ f.rootCause = x.secondParent ∧
          v.objects = x.closing.world.objects) ∧
    ∀ m ∈ l.moments c source w,
      (∀ x, m.handOver? l = some x → m.composition l x.closing =
        (x.receiver.take l ((m.around x.closing).held m.context x.closing.element.heldValues)
          { m.around x.closing with parented := x.child :: m.draft.parented } (.object x.child)
          x.closing.element.location).runIn x.closing.world) ∧
      ∀ k o, m.closing? l = some k → k.element.value = .object o → m.handOver? l = none →
        (m.composition l k).2 = k.world ∧ ∀ d, (m.composition l k).1 = .ok d → d = m.around k := by
  refine ⟨handed_nodup l c source w, ?second, ?composed⟩
  case second =>
    intro before m after x hs ho hx
    have hm : m ∈ l.moments c source w := by simp [hs]
    have hr := Moment.result_of_second_parent ho ((mem_parented_iff hs).2 hx)
    obtain ⟨f, v, hl, hf, hv, -⟩ := loadNested_of_error _ _ _ _ _ hm hr
    refine ⟨hr, f, v, ?_, hf, hv⟩
    exact Op.bind_runIn_of_error hl
  case composed =>
    exact fun m _ => ⟨fun x => Moment.composition_of_handOver,
      fun k o => Moment.composition_of_handOver_none⟩

end Bxml
