import Bxml.Proofs.Load.Below
import Bxml.Proofs.Load.Outermost
import Bxml.Proofs.Load.Parents

/-!
# What becomes of children

A closed instance, include or reference is handed to the element around it, is refused by it, or has
nobody to take it.  Whoever refuses it ends the load.  A property keeps what it was handed last until
it ends, and then stores it; only definitions and elements without a value take nothing.

* `children_of_load` is the result, for every element of a document that loads.  `Hands` and
  `Stores` say what the end of a child and the end of a property do.
* `addChild_cases` says all that adding a value to an object can do, by the equations of
  `Load/Steps.lean`, and `receiver?_cases` and `composition_cases` who takes a value.
* `children_lost` has documents of which an object is nowhere in the end: the first one of two in a
  property, and one in an element without a value.
-/

namespace Bxml

/-! ## Values added to objects -/

/-- What adding a value to an object comes to: it is an item of the object or of the list in its
default property, or it is set as the default property. -/
inductive Added (l : Loader) (h : Held) (o : ObjectId) (v : Value) (w : World) : World → Prop
  | item : (w.object o).defaultProperty = none → (w.object o).sequence?.isSome = true →
      Added l h o v w (w.append o v)
  | listed {property : String} {q : ObjectId} : (w.object o).defaultProperty = some property →
      (w.object o).getProperty property = .ok (.object q) →
      (w.object q).sequence?.isSome = true → Added l h o v w (w.append q v)
  | stored {property : String} {u : World} : (w.object o).defaultProperty = some property →
      (l.host.setProperty h o property v).runIn w = (.ok (), u) → Added l h o v w u

/-- Why a value is not added to an object: it is no container, or its default property fails. -/
inductive NotAdded (l : Loader) (h : Held) (o : ObjectId) (v : Value) (at_ : Location) (w : World) :
    LoadError → World → Prop
  | noContainer : (w.object o).defaultProperty = none → (w.object o).sequence? = none →
      NotAdded l h o v at_ w (.structural (.isNoContainer (w.object o).typeName) at_) w
  | unreadable {property : String} {e : PropertyError} :
      (w.object o).defaultProperty = some property →
      (w.object o).getProperty property = .error e → NotAdded l h o v at_ w (.property e) w
  | unset {property : String} {e : PropertyError} {u : World} :
      (w.object o).defaultProperty = some property →
      (l.host.setProperty h o property v).runIn w = (.error e, u) →
      NotAdded l h o v at_ w (.property e) u

section

variable {l : Loader} {h : Held} {o : ObjectId} {v : Value} {at_ : Location} {w w' : World}

theorem Op.mapError_runIn_eq_error {ε ε' α : Type} {x : Op ε α} {f : ε → ε'} {e : ε'}
    (hx : (x.mapError f).runIn w = (.error e, w')) :
    ∃ e', x.runIn w = (.error e', w') ∧ e = f e' := by
  rw [Op.mapError_runIn] at hx
  rcases hr : x.runIn w with ⟨e' | a, u⟩
  · rw [hr] at hx
    cases hx
    exact ⟨e', rfl, rfl⟩
  · rw [hr] at hx
    cases hx

/-- A value is added, or there is a reason why it is not. -/
theorem addChild_cases (l : Loader) (h : Held) (o : ObjectId) (v : Value) (at_ : Location)
    (w : World) :
    (∃ u, (addChild l h o v at_).runIn w = (.ok (), u) ∧ Added l h o v w u) ∨
      ∃ e u, (addChild l h o v at_).runIn w = (.error e, u) ∧ NotAdded l h o v at_ w e u := by
  cases hd : (w.object o).defaultProperty with
  | none =>
    cases hs : (w.object o).sequence? with
    | some items =>
      have container : (w.object o).sequence?.isSome = true := by
        rw [hs]
        rfl
      exact .inl ⟨_, addChild_of_item hd container, .item hd container⟩
    | none => exact .inr ⟨_, _, addChild_of_noContainer hd hs, .noContainer hd hs⟩
  | some property =>
    cases hp : (w.object o).getProperty property with
    | error e => exact .inr ⟨.property e, w, addChild_of_unreadable hd hp, .unreadable hd hp⟩
    | ok a =>
      by_cases ha : ∃ q, a = .object q ∧ (w.object q).sequence?.isSome = true
      · obtain ⟨q, rfl, hq⟩ := ha
        exact .inl ⟨_, addChild_of_listed hd hp hq, .listed hd hp hq⟩
      · have unlisted (q : ObjectId) (hq : a = .object q) :
            (w.object q).sequence?.isSome = false :=
          Bool.eq_false_iff.2 fun hs => ha ⟨q, hq, hs⟩
        rw [addChild_of_unlisted hd hp unlisted]
        rcases hr : ((l.host.setProperty h o property v).mapError LoadError.property).runIn w with
          ⟨e | _, u⟩
        · obtain ⟨e, he, rfl⟩ := Op.mapError_runIn_eq_error hr
          exact .inr ⟨_, _, rfl, .unset hd he⟩
        · exact .inl ⟨_, rfl, .stored hd (Op.mapError_runIn_eq_ok.1 hr)⟩

end

/-! ## Composition -/

/-- Whether nobody takes the value of an element that is closed inside the given open elements. -/
def Unclaimed (outer : List Element) : Prop :=
  outer = [] ∨ ∃ p rest, outer = p :: rest ∧
    (p.kind = .definition ∨ p.kind.takesValue = false ∧ p.value = .null)

theorem not_unclaimed {p : Element} {outer : List Element} (hd : p.kind ≠ .definition)
    (hp : p.kind.takesValue = true ∨ p.value ≠ .null) : ¬ Unclaimed (p :: outer) := by
  rintro (h | ⟨q, rest, h, hq⟩)
  · cases h
  · obtain ⟨rfl, rfl⟩ := List.cons.inj h
    rcases hq with hq | ⟨ht, hv⟩
    · exact hd hq
    · rcases hp with hp | hp
      · rw [ht] at hp
        cases hp
      · exact hp hv

/-- What it means that a closed element is handed over: it is the value of the property around it, or
was added to the object around it. -/
inductive Moment.Hands (l : Loader) (m : Moment) (k : Closing) (d : Draft) : World → Prop
  | value {p : Element} {rest : List Element} : k.outer = p :: rest → p.kind.takesValue = true →
      d.stack = { p with value := k.element.value } :: rest → Hands l m k d k.world
  | child {p : Element} {rest : List Element} {o : ObjectId} {u : World} : k.outer = p :: rest →
      p.kind.takesValue = false → p.value = .object o → d.stack = k.outer →
      Added l ((m.around k).held m.context k.element.heldValues) o k.element.value k.world u →
      Hands l m k d u

/-- Why a closed element is refused: what is around it holds a plain value, the element has a parent,
or it cannot be added to the object around it. -/
inductive Moment.Refuses (l : Loader) (m : Moment) (k : Closing) : LoadError → World → Prop
  | plain {p : Element} {rest : List Element} : k.outer = p :: rest → p.value ≠ .null →
      p.value.object? = none →
      Refuses l m k (.structural (.valueIsNoContainer p.value.kind) k.element.location) k.world
  | parented {o : ObjectId} : k.element.value = .object o → o ∈ m.draft.parented →
      Refuses l m k (.structural (.alreadyParented (k.world.typeName o)) k.element.location) k.world
  | unadded {p : Element} {rest : List Element} {o : ObjectId} {e : LoadError} {u : World} :
      k.outer = p :: rest → p.value = .object o →
      NotAdded l ((m.around k).held m.context k.element.heldValues) o k.element.value
        k.element.location k.world e u →
      Refuses l m k e u

/-- Who takes a value, if anybody may. -/
theorem receiver?_cases (stack : List Element) (at_ : Location) :
    (receiver? stack at_ = .ok none ∧ Unclaimed stack) ∨
      ∃ p rest, stack = p :: rest ∧
        ((receiver? stack at_ = .ok (some .element) ∧ p.kind.takesValue = true) ∨
          (p.kind.takesValue = false ∧ ∃ o, p.value = .object o ∧
            receiver? stack at_ = .ok (some (.object o))) ∨
          (p.value ≠ .null ∧ p.value.object? = none ∧
            receiver? stack at_ = .error (.structural (.valueIsNoContainer p.value.kind) at_))) := by
  cases stack with
  | nil => exact .inl ⟨rfl, .inl rfl⟩
  | cons p rest =>
    unfold receiver?
    dsimp only
    cases ht : p.kind.takesValue with
    | true => exact .inr ⟨p, rest, rfl, .inl ⟨rfl, ht⟩⟩
    | false =>
      rw [if_neg Bool.false_ne_true]
      by_cases hk : p.kind = .definition
      · rw [if_pos hk]
        exact .inl ⟨rfl, .inr ⟨p, rest, rfl, .inl hk⟩⟩
      · rw [if_neg hk]
        cases hv : p.value with
        | null => exact .inl ⟨rfl, .inr ⟨p, rest, rfl, .inr ⟨ht, hv⟩⟩⟩
        | object o => exact .inr ⟨p, rest, rfl, .inr (.inl ⟨ht, o, hv, rfl⟩)⟩
        | _ =>
          refine .inr ⟨p, rest, rfl, .inr (.inr ?_)⟩
          rw [hv]
          exact ⟨nofun, rfl, rfl⟩

namespace Moment

variable {l : Loader} {m : Moment} {k : Closing} {d : Draft} {u : World} {e : LoadError}

/-- A closed element is handed over or refused, unless nobody takes it. -/
theorem composition_cases (l : Loader) (m : Moment) (k : Closing) :
    (Unclaimed k.outer ∧ m.composition l k = (.ok (m.around k), k.world)) ∨
      (∃ d u, m.composition l k = (.ok d, u) ∧ m.Hands l k d u) ∨
      ∃ e u, m.composition l k = (.error e, u) ∧ m.Refuses l k e u := by
  unfold composition
  rcases receiver?_cases k.outer k.element.location with ⟨hr, free⟩ | ⟨p, rest, ho, taken⟩
  · refine .inl ⟨free, ?_⟩
    unfold compose
    change receiver? (m.around k).stack _ = _ at hr
    rw [hr]
    rfl
  right
  have adopted {r : Receiver} (hr : receiver? k.outer k.element.location = .ok (some r)) :
      (∃ o, k.element.value = .object o ∧ o ∈ m.draft.parented ∧
        (compose l m.context (m.around k) k.element).runIn k.world =
          (.error (.structural (.alreadyParented (k.world.typeName o)) k.element.location),
            k.world)) ∨
        ∃ parented, (compose l m.context (m.around k) k.element).runIn k.world =
          (r.take l ((m.around k).held m.context k.element.heldValues)
            { m.around k with parented := parented } k.element.value k.element.location).runIn
              k.world := by
    rw [compose_of_receiver (d := m.around k) hr]
    by_cases hp : ∃ o, k.element.value = .object o ∧ o ∈ m.draft.parented
    · obtain ⟨o, hv, hp⟩ := hp
      refine .inl ⟨o, hv, hp, ?_⟩
      rw [hv]
      exact Op.bind_runIn_of_error (adopt_of_mem hp)
    · refine .inr ⟨k.element.value.object?.toList ++ m.draft.parented, ?_⟩
      exact Op.bind_runIn_of_ok (adopt_eq_ok.2 ⟨rfl, fun o hv hm => hp ⟨o, hv, hm⟩, rfl⟩)
  rcases taken with ⟨hr, ht⟩ | ⟨ht, o, hv, hr⟩ | ⟨hn, hv, hr⟩
  · rcases adopted hr with ⟨o, hv, hp, hc⟩ | ⟨parented, hc⟩
    · exact .inr ⟨_, _, hc, .parented hv hp⟩
    · refine .inl ⟨_, _, hc, .value ho ht ?_⟩
      have stack : (m.around k).stack = p :: rest := ho
      unfold Draft.setValue
      dsimp only
      rw [stack]
  · rcases adopted hr with ⟨o, hv, hp, hc⟩ | ⟨parented, hc⟩
    · exact .inr ⟨_, _, hc, .parented hv hp⟩
    · rw [hc]
      unfold Receiver.take
      dsimp only
      rcases addChild_cases l ((m.around k).held m.context k.element.heldValues) o k.element.value
        k.element.location k.world with ⟨u, ha, added⟩ | ⟨e, u, ha, refused⟩
      · exact .inl ⟨_, _, Op.bind_runIn_of_ok ha, .child ho ht hv rfl added⟩
      · exact .inr ⟨_, _, Op.bind_runIn_of_error ha, .unadded ho hv refused⟩
  · refine .inr ⟨_, _, ?_, .plain ho hn hv⟩
    unfold compose
    change receiver? (m.around k).stack _ = _ at hr
    rw [hr]
    rfl

/-- What is handed to a property is its value. -/
theorem Hands.stack_eq {p : Element} {outer : List Element} (h : m.Hands l k d u)
    (ho : k.outer = p :: outer) (hp : p.kind.takesValue = true) :
    d.stack = { p with value := k.element.value } :: outer := by
  cases h with
  | value ho' _ hs =>
    obtain ⟨rfl, rfl⟩ := List.cons.inj (ho.symm.trans ho')
    exact hs
  | child ho' hp' =>
    obtain ⟨rfl, rfl⟩ := List.cons.inj (ho.symm.trans ho')
    rw [hp] at hp'
    cases hp'

/-- The event fails whose element is refused. -/
theorem result_of_composition_error (hk : m.closing? l = some k)
    (h : m.composition l k = (.error e, u)) : m.result l = (.error e, u) := by
  obtain ⟨he, hs, hc, ha⟩ := closing?_eq_some hk
  unfold result
  rw [Draft.step_of_close he]
  unfold Draft.closeElement
  rw [hs]
  refine Op.bind_runIn_of_error ?_
  rw [closeAs_of_isComposed hc]
  exact (Op.bind_runIn_of_ok ha).trans (Op.bind_runIn_of_error h)

/-- The end of an element whose value goes to its parent sets its attributes and composes it. -/
theorem closing_of_result {e : Element} {outer : List Element} (he : m.event.event = .close)
    (hs : m.draft.stack = e :: outer) (hc : e.kind.isComposed = true)
    (h : m.result l = (.ok d, u)) :
    ∃ k d₁ v, m.closing? l = some k ∧ k.element = e ∧ k.outer = outer ∧
      m.composition l k = (.ok d₁, v) ∧ d.stack = d₁.stack := by
  unfold result at h
  rw [Draft.step_of_close he] at h
  obtain ⟨e', outer', d₁, z, hs', hclose, -, rfl⟩ := Draft.closeElement_eq_ok h
  obtain ⟨rfl, rfl⟩ := List.cons.inj (hs.symm.trans hs')
  simp only [closeAs_of_isComposed hc, Op.bind_runIn_eq_ok] at hclose
  obtain ⟨_, v, ha, d₂, z, hcompose, _, _, -, hd⟩ := hclose
  cases hd
  refine ⟨⟨e, outer, v⟩, d₁, z, closing?_of_close he hs hc ha, rfl, rfl, hcompose, ?_⟩
  split <;> rfl

end Moment

/-! ## Properties -/

/-- What the end of a property does with its value: it sets the property of the object around it, or
attaches it to that. -/
inductive Stores (l : Loader) (c : DocumentContext) (d : Draft) (p : Element)
    (outer : List Element) (w : World) : Prop
  | property {o : ObjectId} {u : World} : p.kind = .writable → owner? outer = some o →
      (l.host.setProperty ({ d with stack := outer }.held c p.heldValues) o p.name p.value).runIn w =
        (.ok (), u) → Stores l c d p outer w
  | attached {owner property : String} {o : ObjectId} {u : World} :
      p.kind = .attached → splitQualified? p.name = some (owner, property) →
      owner? outer = some o →
      (l.factory.attach ({ d with stack := outer }.held c p.heldValues) owner property o
        p.value).runIn w = (.ok (), u) → Stores l c d p outer w

section

variable {l : Loader} {c : DocumentContext} {nested : Option NestedLoad} {d d' : Draft} {w w' : World}
  {x : Xml.Located}

theorem orFail_runIn_eq_ok {α : Type} {at_ : Location} {f : StructureFault} {a? : Option α} {a : α}
    (h : (orFail at_ f a?).runIn w = (.ok a, w')) : a? = some a ∧ w' = w := by
  cases a? with
  | none => cases h
  | some b =>
    cases h
    exact ⟨rfl, rfl⟩

/-- A property that ends stores its value. -/
theorem stores_of_close {p : Element} {outer : List Element} (hx : x.event = .close)
    (hs : d.stack = p :: outer) (hp : p.kind.takesValue = true)
    (h : (d.step l c nested x).runIn w = (.ok d', w')) : Stores l c d p outer w := by
  rw [Draft.step_of_close hx] at h
  obtain ⟨e, rest, d₁, u, hs', hc, -, -⟩ := Draft.closeElement_eq_ok h
  obtain ⟨rfl, rfl⟩ := List.cons.inj (hs.symm.trans hs')
  unfold closeAs at hc
  cases hk : p.kind with
  | writable =>
    simp only [hk, Op.bind_runIn_eq_ok] at hc
    obtain ⟨o, _, ho, _, _, hset, -⟩ := hc
    obtain ⟨owner, rfl⟩ := orFail_runIn_eq_ok ho
    exact .property hk owner (Op.mapError_runIn_eq_ok.1 hset)
  | attached =>
    simp only [hk, applyAttachedElement, Op.bind_runIn_eq_ok] at hc
    obtain ⟨_, _, ⟨o, _, ho, ⟨owner, property⟩, _, hn, hattach⟩, -⟩ := hc
    obtain ⟨around, rfl⟩ := orFail_runIn_eq_ok ho
    obtain ⟨named, rfl⟩ := orFail_runIn_eq_ok hn
    exact .attached hk named around (Op.mapError_runIn_eq_ok.1 hattach)
  | instanceOf => rw [hk] at hp; cases hp
  | readOnly => rw [hk] at hp; cases hp
  | listeners => rw [hk] at hp; cases hp
  | inclusion => rw [hk] at hp; cases hp
  | script => rw [hk] at hp; cases hp
  | definition => rw [hk] at hp; cases hp
  | reference => rw [hk] at hp; cases hp

end

/-! ## Documents that load -/

/-- In a document that loads every instance, include and reference inside another element is handed
over to that when it ends, unless it is inside a definition or an element without a value. Inside a
property it is what the property stores when it ends, unless something else is put into the property
later. A load fails with the reason if an element is refused. -/
theorem children_of_load (l : Loader) (n : Nat) (c : DocumentContext) (parented : List ObjectId)
    (source : String) (w : World) :
    let taken (items : List Xml.Located) :=
      (takeEvents l c (l.deeper n) (.start parented) items).runIn (c.announce w)
    let run := (loadNested l n c parented source).runIn w
    (∀ r w', run = (.ok r, w') → ∀ before x after, (Xml.events source).items = before ++ x :: after →
      x.event = .close → ∃ d u e around, taken before = (.ok d, u) ∧ d.stack = e :: around ∧
        ∀ p outer, around = p :: outer → e.kind.isComposed = true → p.kind ≠ .definition →
          (p.kind.takesValue = true ∨ p.value ≠ .null) →
          ∃ k d' v, (Moment.mk c (l.deeper n) d x u).closing? l = some k ∧ k.element = e ∧
            k.outer = around ∧ (Moment.mk c (l.deeper n) d x u).composition l k = (.ok d', v) ∧
            (Moment.mk c (l.deeper n) d x u).Hands l k d' v ∧
            (p.kind.takesValue = true → ∀ between y rest, after = between ++ y :: rest →
              Xml.levelAfter 0 between = some 0 → y.event = .close → Xml.IsSilent between →
              ∃ d'' z, taken (before ++ x :: between) = (.ok d'', z) ∧
                d''.stack = { p with value := e.value } :: outer ∧
                Stores l c d'' { p with value := e.value } outer z)) ∧
    ∀ m ∈ momentsNested l n c parented source w, ∀ k e u, m.closing? l = some k →
      m.composition l k = (.error e, u) → m.Refuses l k e u ∧ FailsAs e u run := by
  intro taken run
  refine ⟨fun r w' h before x after hi hx => ?loaded, fun m hm k e u hk hc => ?refused⟩
  case refused =>
    refine ⟨?_, loadNested_of_error n c parented source w hm (m.result_of_composition_error hk hc)⟩
    rcases m.composition_cases l k with ⟨-, hok⟩ | ⟨d, v, hok, -⟩ | ⟨f, v, herror, refused⟩
    · rw [hc] at hok
      cases hok
    · rw [hc] at hok
      cases hok
    · rw [hc] at herror
      cases herror
      exact refused
  case loaded =>
    have loaded : (loadNested l n c parented source).runIn w = (.ok r, w') := h
    rw [loadNested_eq, loadWith_runIn, Op.bind_runIn_eq_ok, hi] at loaded
    obtain ⟨last, z, run, -⟩ := loaded
    obtain ⟨d, u, hb, run⟩ := takeEvents_append_eq_ok.1 run
    obtain ⟨a, v, ha, run⟩ := takeEvents_cons_eq_ok.1 run
    obtain ⟨e, around, hs, stack⟩ := Draft.stack_of_close hx ha
    refine ⟨d, u, e, around, hb, hs, ?_⟩
    rintro p outer rfl hk hdef hclaim
    obtain ⟨k, d', v', hclosing, he, ho, hcompose, hd'⟩ :=
      Moment.closing_of_result (m := ⟨c, l.deeper n, d, x, u⟩) hx hs hk ha
    have hands : (Moment.mk c (l.deeper n) d x u).Hands l k d' v' := by
      rcases Moment.composition_cases l ⟨c, l.deeper n, d, x, u⟩ k with
        ⟨free, -⟩ | ⟨d₁, v₁, hok, hands⟩ | ⟨f, v₁, herror, -⟩
      · rw [ho] at free
        exact absurd free (not_unclaimed hdef hclaim)
      · rw [hcompose] at hok
        cases hok
        exact hands
      · rw [hcompose] at herror
        cases herror
    refine ⟨k, d', v', hclosing, he, ho, hcompose, hands, ?_⟩
    rintro hp between y rest rfl hlevel hy quiet
    obtain ⟨d'', z', hbetween, run⟩ := takeEvents_append_eq_ok.1 run
    obtain ⟨b, v'', hclose, -⟩ := takeEvents_cons_eq_ok.1 run
    have kept := takeEvents_of_isSilent hlevel quiet hbetween
    rw [hd', hands.stack_eq ho hp, he] at kept
    refine ⟨d'', z', ?_, kept, stores_of_close hy kept hp hclose⟩
    exact takeEvents_append_eq_ok.2 ⟨d, u, hb, takeEvents_cons_eq_ok.2 ⟨a, v, ha, hbetween⟩⟩

/-- A world in which a document has an id for an object whose default property holds a text. -/
def World.labelled : World :=
  let slots := Entries.empty.insert "text" (.writable .string .null)
  ((World.empty.alloc ⟨.bean ⟨"Label", some "text", none, slots⟩, []⟩).2.allocTable
    (Entries.empty.insert "p" (.object ⟨0⟩))).2

/-- The failure of a property that ends a load. -/
def propertyFailure? : Except LoadError Outcome → Option PropertyError
  | .error (.property e) => some e
  | _ => none

/-- Documents are loaded of which an object is nowhere in the end: the first one of two in a property,
and one in a script. A document fails because of a property that does not take an object. -/
theorem children_lost :
    let load (source : String) (w : World) := (Loader.plain.loadOuter (.outer none) source).runIn w
    let lost (source : String) := (load source .blank).1.isOk = true ∧
      (load source .blank).2.typeName ⟨1⟩ = "B" ∧
      ⟨1⟩ ∉ ((load source .blank).2.objects.toList.flatMap Object.heldValues).filterMap Value.object?
    lost "<A><x><B/><C/></x></A>" ∧ lost "<A><bxml:script><B/></bxml:script></A>" ∧
      propertyFailure?
        (load "<A><x><bxml:reference id='p'><B/></bxml:reference></x></A>" .labelled).1 =
          some (.coercion "text" .string "[B]") := by
  intro load lost
  refine ⟨⟨?_, ?_, ?_⟩, ⟨?_, ?_, ?_⟩, ?_⟩ <;> decide +kernel

end Bxml
