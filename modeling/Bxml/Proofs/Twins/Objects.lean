import Bxml.Proofs.Twins.Values
import Bxml.Propagation

/-!
# Twin objects

Two objects are in the same state if they have the same type, and what they hold, who is told of
their changes and who listens correspond.

Each part of an object has a relation of its own, from `SameBinding` to `SameContent`, and
`SameState` puts them together.  The lemmas say that reading an object in any way gives what
corresponds.
-/

namespace Bxml.Twins

variable (S : Twins)

/-- Whether two bindings connect the same properties of objects that correspond. -/
structure SameBinding (b b' : Binding) : Prop where
  source : S.SameObject b.source b'.source
  sourceKey : b.sourceKey = b'.sourceKey
  target : S.SameObject b.target b'.target
  targetKey : b.targetKey = b'.targetKey
  mapping : b.mapping = b'.mapping

/-- Whether two subscribers do the same. -/
inductive SameSubscriber : Subscriber → Subscriber → Prop
  | binding {b b' : Binding} : S.SameBinding b b' → SameSubscriber (.binding b) (.binding b')
  | watcher (label : String) : SameSubscriber (.watcher label) (.watcher label)

/-- Whether two event scripts are the same for tables that correspond. -/
structure SameScript (e e' : EventScript) : Prop where
  interface : e.interface = e'.interface
  engine : e.engine = e'.engine
  event : e.event = e'.event
  script : e.script = e'.script
  table : Option.Rel S.SameTable e.table e'.table

/-- Whether two listeners do the same. -/
inductive SameListener : Listener → Listener → Prop
  | constant {v v' : Value} : S.SameValue v v' → SameListener (.constant v) (.constant v')
  | failing (message : String) : SameListener (.failing message) (.failing message)
  | adapter (a : Adapter) : SameListener (.adapter a) (.adapter a)
  | script {e e' : EventScript} : S.SameScript e e' → SameListener (.script e) (.script e')

/-- Whether two lists of listeners are for the same interface and do the same. -/
structure SameListeners (l l' : ListenerList) : Prop where
  interface : l.interface = l'.interface
  listeners : List.Forall₂ S.SameListener l.listeners l'.listeners

/-- Whether two slots hold the same. -/
inductive SameSlot : Slot → Slot → Prop
  | writable (t : ValueType) {v v' : Value} : S.SameValue v v' →
      SameSlot (.writable t v) (.writable t v')
  | readOnly {v v' : Value} : S.SameValue v v' → SameSlot (.readOnly v) (.readOnly v')
  | listeners {l l' : ListenerList} : S.SameListeners l l' →
      SameSlot (.listeners l) (.listeners l')

/-- Whether two beans have the same type and hold the same. -/
structure SameBean (b b' : Bean) : Prop where
  typeName : b.typeName = b'.typeName
  defaultProperty : b.defaultProperty = b'.defaultProperty
  idProperty : b.idProperty = b'.idProperty
  slots : Entries.Rel S.SameSlot b.slots b'.slots

/-- Whether two dictionaries have the same type and hold the same. -/
structure SameDictionary (d d' : Dictionary) : Prop where
  typeName : d.typeName = d'.typeName
  entries : Entries.Rel S.SameValue d.entries d'.entries
  hook : d.hook = d'.hook

/-- Whether two objects consist of the same. -/
inductive SameContent : Content → Content → Prop
  | bean {b b' : Bean} : S.SameBean b b' → SameContent (.bean b) (.bean b')
  | dictionary {d d' : Dictionary} : S.SameDictionary d d' →
      SameContent (.dictionary d) (.dictionary d')
  | list {l l' : List Value} : List.Forall₂ S.SameValue l l' → SameContent (.list l) (.list l')

/-- Whether two subscriptions are for the same property and do the same. -/
def SameSubscription (p q : String × Subscriber) : Prop := p.1 = q.1 ∧ S.SameSubscriber p.2 q.2

/-- Whether two objects are in the same state. -/
structure SameState (x x' : Object) : Prop where
  content : S.SameContent x.content x'.content
  subscribers : List.Forall₂ S.SameSubscription x.subscribers x'.subscribers

variable {S}

namespace SameSlot

variable {s s' : Slot}

theorem value? (h : S.SameSlot s s') : Option.Rel S.SameValue s.value? s'.value? := by
  cases h with
  | writable t h => exact .some h
  | readOnly h => exact .some h
  | listeners h => exact .none

theorem kind (h : S.SameSlot s s') : s.kind = s'.kind := by
  cases h with
  | listeners h => exact congrArg PropertyKind.listeners h.interface
  | _ => rfl

theorem listeners? (h : S.SameSlot s s') :
    Option.Rel S.SameListeners s.listeners? s'.listeners? := by
  cases h with
  | listeners h => exact .some h
  | _ => exact .none

end SameSlot

namespace SameState

variable {x x' : Object}

theorem emptyDictionary (typeName : String) :
    S.SameState (.emptyDictionary typeName) (.emptyDictionary typeName) :=
  ⟨.dictionary ⟨rfl, .empty, rfl⟩, .nil⟩

theorem ofItems {l l' : List Value} (h : List.Forall₂ S.SameValue l l') :
    S.SameState (.ofItems l) (.ofItems l') :=
  ⟨.list h, .nil⟩

/-! ## What can be read -/

theorem typeName (h : S.SameState x x') : x.typeName = x'.typeName := by
  obtain ⟨c, l⟩ := x
  obtain ⟨c', l'⟩ := x'
  obtain ⟨hc, -⟩ := h
  cases hc with
  | bean h => exact h.typeName
  | dictionary h => exact h.typeName
  | list _ => rfl

theorem getElem? {l l' : List Value} (h : List.Forall₂ S.SameValue l l') (i : Nat) :
    Option.Rel S.SameValue l[i]? l'[i]? := by
  induction h generalizing i with
  | nil => exact .none
  | cons h _ ih =>
    cases i with
    | zero => exact .some h
    | succ i => exact ih i

theorem index?_eq {l l' : List Value} (h : l.length = l'.length) (name : String) :
    Object.index? l name = Object.index? l' name := by
  unfold Object.index?
  rw [h]

theorem propertyKind (h : S.SameState x x') (name : String) :
    x.propertyKind name = x'.propertyKind name := by
  obtain ⟨c, l⟩ := x
  obtain ⟨c', l'⟩ := x'
  obtain ⟨hc, -⟩ := h
  cases hc with
  | bean h =>
    unfold Object.propertyKind
    obtain ⟨hs, hs'⟩ | ⟨s, s', hs, hs', same⟩ := (h.slots.get? name).none_or_some
    · simp only [hs, hs', Option.map_none]
    · simp only [hs, hs', Option.map_some, same.kind]
  | dictionary h => rfl
  | list h =>
    unfold Object.propertyKind
    simp only [index?_eq h.length_eq]

theorem hasProperty (h : S.SameState x x') (name : String) :
    x.hasProperty name = x'.hasProperty name := by
  have kind := h.propertyKind name
  obtain ⟨c, l⟩ := x
  obtain ⟨c', l'⟩ := x'
  obtain ⟨hc, -⟩ := h
  cases hc with
  | dictionary h => exact h.entries.contains name
  | _ => simp only [Object.hasProperty, kind]

theorem getProperty (h : S.SameState x x') (name : String) :
    SameResult S.SameValue (x.getProperty name) (x'.getProperty name) := by
  obtain ⟨c, l⟩ := x
  obtain ⟨c', l'⟩ := x'
  obtain ⟨hc, -⟩ := h
  cases hc with
  | @bean b b' h =>
    have held : Option.Rel S.SameValue ((b.slots.get? name).bind Slot.value?)
        ((b'.slots.get? name).bind Slot.value?) := by
      obtain ⟨hs, hs'⟩ | ⟨s, s', hs, hs', same⟩ := (h.slots.get? name).none_or_some
      · rw [hs, hs']
        exact .none
      · rw [hs, hs']
        exact same.value?
    unfold Object.getProperty
    obtain ⟨hv, hv'⟩ | ⟨v, v', hv, hv', same⟩ := held.none_or_some
    · simp only [hv, hv', h.typeName]
      exact .error _
    · simp only [hv, hv']
      exact .ok same
  | dictionary h =>
    unfold Object.getProperty
    obtain ⟨hv, hv'⟩ | ⟨v, v', hv, hv', same⟩ := (h.entries.get? name).none_or_some
    · simp only [hv, hv']
      exact .ok .null
    · simp only [hv, hv']
      exact .ok same
  | @list items items' h =>
    unfold Object.getProperty
    simp only [h.length_eq, index?_eq h.length_eq]
    split
    · exact .ok (.int _)
    · cases Object.index? items' name with
      | none => exact .error _
      | some i =>
        have held : Option.Rel S.SameValue items[i]? items'[i]? := getElem? h i
        obtain ⟨hv, hv'⟩ | ⟨v, v', hv, hv', same⟩ := held.none_or_some
        · simp only [Option.bind_some, hv, hv']
          exact .error _
        · simp only [Option.bind_some, hv, hv']
          exact .ok same

theorem defaultProperty (h : S.SameState x x') : x.defaultProperty = x'.defaultProperty := by
  obtain ⟨c, l⟩ := x
  obtain ⟨c', l'⟩ := x'
  obtain ⟨hc, -⟩ := h
  cases hc with
  | bean h => exact h.defaultProperty
  | _ => rfl

theorem idProperty (h : S.SameState x x') : x.idProperty = x'.idProperty := by
  obtain ⟨c, l⟩ := x
  obtain ⟨c', l'⟩ := x'
  obtain ⟨hc, -⟩ := h
  cases hc with
  | bean h => exact h.idProperty
  | _ => rfl

theorem dictionary? (h : S.SameState x x') :
    Option.Rel S.SameDictionary x.dictionary? x'.dictionary? := by
  obtain ⟨c, l⟩ := x
  obtain ⟨c', l'⟩ := x'
  obtain ⟨hc, -⟩ := h
  cases hc with
  | dictionary h => exact .some h
  | _ => exact .none

theorem isSome_sequence? (h : S.SameState x x') :
    x.sequence?.isSome = x'.sequence?.isSome := by
  obtain ⟨c, l⟩ := x
  obtain ⟨c', l'⟩ := x'
  obtain ⟨hc, -⟩ := h
  cases hc <;> rfl

theorem publishes (h : S.SameState x x') : x.publishes = x'.publishes := by
  obtain ⟨c, l⟩ := x
  obtain ⟨c', l'⟩ := x'
  obtain ⟨hc, -⟩ := h
  cases hc <;> rfl

theorem listeners? (h : S.SameState x x') (name : String) :
    Option.Rel S.SameListeners (x.listeners? name) (x'.listeners? name) := by
  obtain ⟨c, l⟩ := x
  obtain ⟨c', l'⟩ := x'
  obtain ⟨hc, -⟩ := h
  cases hc with
  | bean h =>
    unfold Object.listeners?
    obtain ⟨hs, hs'⟩ | ⟨s, s', hs, hs', same⟩ := (h.slots.get? name).none_or_some
    · simp only [hs, hs']
      exact .none
    · simp only [hs, hs']
      exact same.listeners?
  | _ => exact .none

theorem subscribersOf (h : S.SameState x x') (name : String) :
    List.Forall₂ S.SameSubscriber (x.subscribersOf name) (x'.subscribersOf name) := by
  unfold Object.subscribersOf
  rw [List.forall₂_map_left_iff, List.forall₂_map_right_iff]
  have filtered := List.rel_filter (R := S.SameSubscription) (p := fun p => p.1 == name)
    (q := fun p => p.1 == name) (fun p q h => by simp [h.1]) h.subscribers
  exact filtered.imp fun p q h => h.2

theorem holds {v v' : Value} (h : S.SameState x x') (name : String) (hv : S.SameValue v v') :
    x.holds name v = x'.holds name v' := by
  unfold Object.holds
  obtain ⟨a, b, ha, hb, same⟩ | ⟨e, ha, hb⟩ := (h.getProperty name).ok_or_error
  · rw [ha, hb]
    exact same.beq_eq hv
  · rw [ha, hb]

/-! ## What is held -/

theorem heldValues (h : S.SameState x x') :
    List.Forall₂ S.SameValue x.heldValues x'.heldValues := by
  obtain ⟨c, l⟩ := x
  obtain ⟨c', l'⟩ := x'
  obtain ⟨hc, -⟩ := h
  cases hc with
  | bean h =>
    unfold Object.heldValues
    refine List.rel_flatMap h.slots.values fun s s' same => ?_
    cases same with
    | writable t h => exact .cons h .nil
    | readOnly h => exact .cons h .nil
    | listeners h =>
      refine List.rel_filterMap (fun l l' same => ?_) h.listeners
      cases same with
      | constant h => exact .some h
      | _ => exact .none
  | dictionary h => exact h.entries.values
  | list h => exact h

end SameState

end Bxml.Twins
