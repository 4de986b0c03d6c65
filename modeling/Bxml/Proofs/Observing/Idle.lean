import Bxml.Proofs.Observing.Activity
import Bxml.Proofs.Entries
import Bxml.Proofs.Twins.Changes
import Bxml.Proofs.World.Dictionaries
import Bxml.Types.Descriptor

/-!
# Subscribers that do not write

Where those who are told of changes write nothing, an accepted write changes one slot, and who
subscribed to it is told once if the value is another one; a write that is refused does nothing.  So
a bean keeps the properties its type declares, and a dictionary holds what was put last under each
key: `Host.keeps_declared_and_put`.

* `Host.Idle` is the condition on subscribers; watchers meet it (`idle_watcher`).
* `exists_setProperty` is one write, and `SetsSlot` and `PutsEntry` say what it comes to for a bean
  and for a dictionary.
* `Slot.Becomes` is the invariant for the slots of a bean, `World.Conforms` what it means for what
  the type declares, and `HasBecome.setAll` and `object_putAll` are the inductions over lists of
  writes.
-/

namespace Bxml

/-! ## Writes -/

/-- What those who subscribed to a place report when the value that was there is replaced. -/
def World.reportsOf (w : World) (p : Place) : Option Value → List Event
  | some previous => (w.audience p).filterMap (·.report? p.key previous)
  | none => []

/-- Whether a subscriber that is told of a change writes nothing, but may report it. -/
def Host.Idle (host : Host) (s : Subscriber) : Prop :=
  ∀ (write : Write) (h : Held) (name : String) (previous : Value) (w : World),
    ∃ u, (host.tell write h name previous s).runIn w = (.ok (), u) ∧ u.objects = w.objects ∧
      u.reported = w.reported ++ (s.report? name previous).toList

namespace Host

variable {host : Host} {w u : World} {o : ObjectId} {p : Place} {a : Value}

/-- Watchers only report. -/
theorem idle_watcher (host : Host) (label : String) : host.Idle (.watcher label) :=
  fun _ _ _ _ _ => ⟨_, rfl, rfl, World.reported_emit _ _⟩

theorem exists_tell_of_idle {l : List Subscriber} (hl : ∀ s ∈ l, host.Idle s) (write : Write)
    (h : Held) (name : String) (previous : Value) (w : World) :
    ∃ u, (l.forM (host.tell write h name previous)).runIn w = (.ok (), u) ∧
      u.objects = w.objects ∧
      u.reported = w.reported ++ l.filterMap (·.report? name previous) := by
  induction l generalizing w with
  | nil => exact ⟨w, rfl, rfl, (List.append_nil _).symm⟩
  | cons s l ih =>
    obtain ⟨v, first, objects, reported⟩ := hl s List.mem_cons_self write h name previous w
    obtain ⟨u, rest, objects', reported'⟩ := ih (fun t ht => hl t (List.mem_cons_of_mem _ ht)) v
    refine ⟨u, ?_, objects'.trans objects, ?_⟩
    · rw [Op.forM_cons_runIn_of_ok first]
      exact rest
    · rw [reported', reported, List.append_assoc, List.filterMap_cons]
      cases s.report? name previous <;> rfl

/-- Whether all who subscribed to an object write nothing. -/
def IdleAt (host : Host) (w : World) (o : ObjectId) : Prop :=
  ∀ s ∈ (w.object o).subscribers, host.Idle s.2

theorem IdleAt.audience (h : host.IdleAt w p.object) : ∀ s ∈ w.audience p, host.Idle s := by
  intro s hs
  obtain ⟨t, ht, rfl⟩ := List.mem_map.1 hs
  exact h t (List.mem_filter.1 ht).1

/-- A write that is accepted changes what it is to change, and is reported once by each of those who
are to be told. -/
theorem exists_setProperty (nesting : 0 < host.nesting) (hw : host.IdleAt w p.object) {x : World.Written}
    (h : Held) (hx : w.assign p.object p.key a = .ok x) :
    ∃ u, (host.setProperty h p.object p.key a).runIn w = (.ok (), u) ∧
      u.objects = x.world.objects ∧ u.reported = w.reported ++ w.reportsOf p x.previous := by
  obtain ⟨n, hn⟩ := Nat.exists_eq_add_one_of_ne_zero (Nat.ne_zero_of_lt nesting)
  obtain ⟨v, previous⟩ := x
  have reported : v.reported = w.reported := World.reported_assign hx
  unfold setProperty
  rw [hn]
  unfold Op.runIn write writeThen
  rw [hx]
  cases previous with
  | none => exact ⟨v, rfl, rfl, reported.trans (List.append_nil _).symm⟩
  | some previous =>
    have audience : v.audience p = w.audience p := congrFun (World.audience_assign hx) p
    obtain ⟨u, run, objects, told⟩ := exists_tell_of_idle (audience ▸ hw.audience) (host.write n)
      (h.keep [.object p.object, a, previous]) p.key previous v
    refine ⟨u, run, objects, told.trans ?_⟩
    rw [reported, audience]
    rfl

end Host

/-! ## Beans -/

/-- What a slot of a new object is, if its property is declared like this. -/
def PropertySpec.Makes : PropertySpec → Slot → Prop
  | .writable t v, s => s = .writable t v
  | .readOnly _, s => ∃ v, s = .readOnly v
  | .listeners i, s => s = .listeners ⟨i, []⟩

theorem PropertySpec.Makes.kind {spec : PropertySpec} {s : Slot} (h : spec.Makes s) :
    s.kind = spec.kind := by
  cases spec with
  | writable => cases h; rfl
  | readOnly => obtain ⟨v, rfl⟩ := h; rfl
  | listeners => cases h; rfl

/-- What may become of a slot by writes. -/
inductive Slot.Becomes : Slot → Slot → Prop
  | writable {t : ValueType} {v c : Value} :
    c = v ∨ c = .null ∨ t.owns c = true → Becomes (.writable t v) (.writable t c)
  | readOnly (v : Value) : Becomes (.readOnly v) (.readOnly v)
  | listeners (l : ListenerList) : Becomes (.listeners l) (.listeners l)

namespace Slot.Becomes

variable {s s' : Slot}

theorem refl : (s : Slot) → s.Becomes s
  | .writable _ _ => .writable (.inl rfl)
  | .readOnly v => .readOnly v
  | .listeners l => .listeners l

theorem kind (h : s.Becomes s') : s'.kind = s.kind := by cases h <;> rfl

theorem isSome_value? (h : s.Becomes s') : s'.value?.isSome = s.value?.isSome := by cases h <;> rfl

/-- A value of its type may be written to a slot. -/
theorem store {t : ValueType} {old c : Value} (h : s.Becomes (.writable t old))
    (hc : c = .null ∨ t.owns c = true) : s.Becomes (.writable t c) := by
  cases h
  exact .writable (.inr hc)

end Slot.Becomes

namespace Entries

variable {α β : Type} {R : α → β → Prop} {m : Entries α} {m' : Entries β} {k : String}

/-- What is stored under a name already may be stored again. -/
theorem insert_of_get? {a : α} (h : m.get? k = some a) : m.insert k a = m := by
  have list (l : List (String × α)) (h : l.lookup k = some a) : insertList k a l = l := by
    induction l with
    | nil => cases h
    | cons p l ih =>
      obtain ⟨j, b⟩ := p
      by_cases hj : j = k
      · subst hj
        rw [List.lookup_cons_self] at h
        cases h
        simp [insertList]
      · rw [List.lookup_cons, beq_false_of_ne (Ne.symm hj)] at h
        rw [insertList, if_neg hj, ih h]
  obtain ⟨l, hl⟩ := m
  unfold insert
  congr
  exact list l h

/-- A value that is replaced by one that corresponds to the same value. -/
theorem Rel.store (h : m.Rel R m') {b : β} (hb : m'.get? k = some b) {b' : β}
    (hR : ∀ a, R a b → R a b') : m.Rel R (m'.insert k b') := by
  obtain ⟨-, hn⟩ | ⟨a, c, ha, hc, hac⟩ := (h.get? k).none_or_some
  · cases hb.symm.trans hn
  · cases hb.symm.trans hc
    have both := h.insert k (hR a hac)
    rwa [insert_of_get? ha] at both

end Entries

namespace TypeDescriptor

theorem makes_newSlots (ps : List (String × PropertySpec)) (w : World) :
    List.Forall₂ (fun p q => p.1 = q.1 ∧ p.2.Makes q.2) ps (newSlots ps w).1 := by
  induction ps generalizing w with
  | nil => exact .nil
  | cons p ps ih =>
    refine .cons ⟨rfl, ?_⟩ (ih _)
    cases p.2 with
    | writable t v => rfl
    | readOnly make => exact ⟨_, rfl⟩
    | listeners i => rfl

/-- A new object has the slots that its type declares. -/
theorem exists_bean_of_instantiate (d : TypeDescriptor) (w : World) :
    ∃ b, (d.instantiate w).2.object (d.instantiate w).1 = ⟨.bean b, []⟩ ∧
      d.properties.Rel PropertySpec.Makes b.slots := by
  refine ⟨_, (World.object_alloc _ _ _).trans (if_pos rfl), ?_⟩
  have slots := makes_newSlots d.properties.toList w
  have nodup : ((newSlots d.properties.toList w).1.map Prod.fst).Nodup := by
    have names : (newSlots d.properties.toList w).1.map Prod.fst = d.properties.toList.map Prod.fst := by
      rw [← List.forall₂_eq_eq_eq, List.forall₂_map_left_iff, List.forall₂_map_right_iff]
      exact slots.flip.imp fun _ _ h => h.1.symm
    rw [names]
    exact d.properties.nodup
  have all : (Entries.ofList (newSlots d.properties.toList w).1).toList =
      (newSlots d.properties.toList w).1 := Entries.toList_insertAll (m := .empty) nodup
  unfold Entries.Rel
  rw [all]
  exact slots

end TypeDescriptor

namespace World

variable {host : Host} {w u v : World} {o : ObjectId} {b b' : Bean} {name : String} {a : Value}
  {subscribers : List (String × Subscriber)}

/-- What the writing of `a` to a property of a bean comes to: a failure that leaves everything as it
is, or another value in one slot, which is reported if it is not equal to the one before. -/
inductive SetsSlot (w : World) (o : ObjectId) (name : String) (a : Value) :
    Except PropertyError Unit × World → Prop
  | refused (e : PropertyError) : SetsSlot w o name a (.error e, w)
  | stored {b : Bean} {t : ValueType} {old new : Value} {u : World} :
    (w.object o).content = .bean b → b.slots.get? name = some (.writable t old) →
      t.coerce w.typeName name a = .ok new →
      u.objects = (w.setContent o (.bean (b.store name t new))).objects →
      u.reported = w.reported ++ w.reportsOf ⟨o, name⟩ (if old == new then none else some old) →
      SetsSlot w o name a (.ok (), u)

theorem setsSlot_setProperty (nesting : 0 < host.nesting) (idle : host.IdleAt w o) (h : Held)
    (hb : (w.object o).content = .bean b) :
    w.SetsSlot o name a ((host.setProperty h o name a).runIn w) := by
  cases hx : w.assign o name a with
  | error e =>
    rw [Host.setProperty_of_refused h hx]
    exact .refused e
  | ok x =>
    obtain ⟨u, run, objects, reported⟩ :=
      Host.exists_setProperty (p := ⟨o, name⟩) nesting idle h hx
    rw [run]
    obtain ⟨b, t, old, c, hc, hs, hv, rfl⟩ | ⟨d, hc, -⟩ | ⟨items, i, hc, -⟩ := assign_cases hx
    · exact .stored hc hs hv objects reported
    · cases hb.symm.trans hc
    · cases hb.symm.trans hc

/-- Whether an object is a bean that has become of another one by writes. -/
def HasBecome (w : World) (o : ObjectId) (b : Bean) (subscribers : List (String × Subscriber)) :
    Prop :=
  ∃ b', w.object o = ⟨.bean b', subscribers⟩ ∧ b.slots.Rel Slot.Becomes b'.slots

/-- What a write comes to lets a bean become only what it may. -/
theorem HasBecome.setsSlot (h : w.HasBecome o b subscribers) {r : Except PropertyError Unit}
    (hr : w.SetsSlot o name a (r, u)) : u.HasBecome o b subscribers := by
  cases hr with
  | refused => exact h
  | @stored b' t old new _ hc hs hv objects =>
    obtain ⟨_, hb, slots⟩ := h
    rw [hb] at hc
    cases hc
    refine ⟨b'.store name t new, ?_, slots.store hs fun s hs => ?_⟩
    · have ho : o.index < w.objects.size := lt_size_of_bean (congrArg Object.content hb)
      have same : u.object o = (w.setContent o (.bean (b'.store name t new))).object o := by
        unfold object
        rw [objects]
      rw [same, object_setContent ho, if_pos rfl, hb]
    · exact hs.store (ValueType.owns_of_stored? (ValueType.coerce_eq_ok.1 hv))

theorem HasBecome.idleAt (h : w.HasBecome o b subscribers)
    (idle : ∀ s ∈ subscribers, host.Idle s.2) : host.IdleAt w o := by
  obtain ⟨b', hb, -⟩ := h
  unfold Host.IdleAt
  rw [hb]
  exact idle

theorem HasBecome.setsSlot_setProperty (nesting : 0 < host.nesting)
    (idle : ∀ s ∈ subscribers, host.Idle s.2) (hw : w.HasBecome o b subscribers) (h : Held)
    (name : String) (a : Value) : w.SetsSlot o name a ((host.setProperty h o name a).runIn w) :=
  have ⟨_, hb, _⟩ := hw
  World.setsSlot_setProperty nesting (hw.idleAt idle) h (congrArg Object.content hb)

end World

/-- Writes some properties of an object, one after the other; a write that fails stops nothing. -/
def Host.setAll (host : Host) (o : ObjectId) (calls : List (Held × String × Value)) (w : World) :
    World :=
  calls.foldl (fun w c => ((host.setProperty c.1 o c.2.1 c.2.2).runIn w).2) w

namespace World

variable {host : Host} {w u v : World} {o : ObjectId} {b b' : Bean} {d : TypeDescriptor}
  {subscribers : List (String × Subscriber)}

/-- What becomes of a bean by any writes. -/
theorem HasBecome.setAll (nesting : 0 < host.nesting) (idle : ∀ s ∈ subscribers, host.Idle s.2)
    (h : w.HasBecome o b subscribers) (calls : List (Held × String × Value)) :
    (host.setAll o calls w).HasBecome o b subscribers := by
  induction calls generalizing w with
  | nil => exact h
  | cons c calls ih => exact ih (h.setsSlot (h.setsSlot_setProperty nesting idle c.1 c.2.1 c.2.2))

/-- Whether an object is what its type declares, compared with what it was in a world before. -/
structure Conforms (w : World) (d : TypeDescriptor) (o : ObjectId) (u : World) : Prop where
  names : (u.object o).propertyNames = (w.object o).propertyNames
  kinds : ∀ name, (u.object o).propertyKind name = d.propertyKind name
  readOnly : ∀ name, d.propertyKind name = some .readOnly →
    (u.object o).getProperty name = (w.object o).getProperty name
  writable : ∀ name t initial, d.properties.get? name = some (.writable t initial) →
    ∃ c, (u.object o).getProperty name = .ok c ∧ (c = initial ∨ c = .null ∨ t.owns c = true)

/-- The names of slots that hold values stay as they are. -/
theorem propertyNames_of_rel (h : b.slots.Rel Slot.Becomes b'.slots)
    (subscribers : List (String × Subscriber)) :
    (⟨.bean b', subscribers⟩ : Object).propertyNames =
      (⟨.bean b, subscribers⟩ : Object).propertyNames := by
  unfold Entries.Rel at h
  unfold Object.propertyNames
  dsimp only
  generalize b.slots.toList = l, b'.slots.toList = l' at h
  induction h with
  | nil => rfl
  | cons hpq _ ih =>
    obtain ⟨name, slot⟩ := hpq
    rw [List.filter_cons, List.filter_cons, slot.isSome_value?]
    split
    · rw [List.map_cons, List.map_cons, ih, name]
    · exact ih

theorem HasBecome.conforms (h : u.HasBecome o b subscribers) (hw : w.object o = ⟨.bean b, subscribers⟩)
    (made : d.properties.Rel PropertySpec.Makes b.slots) : w.Conforms d o u := by
  obtain ⟨b', hu, slots⟩ := h
  have slot (name : String) : (d.properties.get? name = none ∧ b'.slots.get? name = none) ∨
      ∃ spec s s', d.properties.get? name = some spec ∧ b.slots.get? name = some s ∧
        b'.slots.get? name = some s' ∧ spec.Makes s ∧ s.Becomes s' := by
    obtain ⟨hn, hm⟩ | ⟨spec, s, hspec, hs, hm⟩ := (made.get? name).none_or_some <;>
      obtain ⟨hs', hn'⟩ | ⟨s', s'', hs', hs'', hb⟩ := (slots.get? name).none_or_some
    · exact .inl ⟨hn, hn'⟩
    · cases hm.symm.trans hs'
    · cases hs.symm.trans hs'
    · cases hs.symm.trans hs'
      exact .inr ⟨spec, s, s'', hspec, hs, hs'', hm, hb⟩
  refine ⟨?names, fun name => ?kinds, fun name hk => ?readOnly, fun name t initial ht => ?writable⟩
  case names =>
    rw [hu, hw]
    exact propertyNames_of_rel slots subscribers
  case kinds =>
    unfold Object.propertyKind TypeDescriptor.propertyKind
    rw [hu]
    dsimp only
    obtain ⟨hd, hb⟩ | ⟨spec, s, s', hd, -, hb, makes, becomes⟩ := slot name
    · rw [hd, hb]
      rfl
    · rw [hd, hb, Option.map_some, Option.map_some, becomes.kind, makes.kind]
  case readOnly =>
    unfold TypeDescriptor.propertyKind at hk
    obtain ⟨hd, -⟩ | ⟨spec, s, s', hd, hs, hs', makes, becomes⟩ := slot name
    · simp [hd] at hk
    · rw [hd] at hk
      cases spec with
      | readOnly make =>
        obtain ⟨v, rfl⟩ := makes
        cases becomes
        unfold Object.getProperty
        rw [hu, hw]
        dsimp only
        rw [hs, hs']
        rfl
      | _ => cases hk
  case writable =>
    obtain ⟨hd, -⟩ | ⟨spec, s, s', hd, -, hs', makes, becomes⟩ := slot name
    · cases ht.symm.trans hd
    · cases ht.symm.trans hd
      cases makes
      cases becomes with
      | writable hc =>
        refine ⟨_, ?_, hc⟩
        unfold Object.getProperty
        rw [hu]
        dsimp only
        rw [hs']
        rfl

/-- Adds some subscribers to an object. -/
def subscribeAll (w : World) (o : ObjectId) (subscribers : List (String × Subscriber)) : World :=
  subscribers.foldl (fun w s => w.subscribe o s.1 s.2) w

theorem object_subscribeAll (ho : o.index < w.objects.size) :
    (w.subscribeAll o subscribers).object o =
      ⟨(w.object o).content, (w.object o).subscribers ++ subscribers⟩ := by
  induction subscribers generalizing w with
  | nil => rw [List.append_nil]; rfl
  | cons s subscribers ih =>
    have size : o.index < (w.subscribe o s.1 s.2).objects.size := by
      rw [show (w.subscribe o s.1 s.2).objects.size = w.objects.size from Array.size_modify]
      exact ho
    refine (ih size).trans ?_
    rw [content_subscribe ho, subscribers_subscribe ho, if_pos rfl, List.append_assoc]
    rfl

end World

/-! ## Dictionaries -/

namespace Entries

variable {α : Type} {m : Entries α} {l : List (String × α)}

/-- Names keep the order in which they were first stored. -/
theorem keys_insertAll :
    (m.insertAll l).keys = m.keys ++ ((l.map Prod.fst).filter fun k => !m.contains k).eraseDups := by
  induction l generalizing m with
  | nil => exact (List.append_nil _).symm
  | cons p l ih =>
    change ((m.insert p.1 p.2).insertAll l).keys = _
    rw [ih, List.map_cons, List.filter_cons]
    unfold contains
    rw [keys_insert]
    by_cases hp : p.1 ∈ m.keys
    · simp [hp]
    · simp [hp, List.eraseDups_cons, List.filter_filter, Bool.and_comm, beq_eq_decide]

/-- Under each name there is what was stored last. -/
theorem get?_insertAll (k : String) :
    (m.insertAll l).get? k = (l.reverse.lookup k).or (m.get? k) := by
  induction l generalizing m with
  | nil => rfl
  | cons p l ih =>
    change ((m.insert p.1 p.2).insertAll l).get? k = _
    rw [ih, get?_insert, List.reverse_cons, List.lookup_append, Option.or_assoc]
    congr 1
    obtain ⟨j, a⟩ := p
    by_cases hk : k = j
    · subst hk
      rw [if_pos rfl, List.lookup_cons_self]
      rfl
    · rw [if_neg hk, List.lookup_cons, beq_false_of_ne hk]
      rfl

end Entries

/-- Puts some values into a dictionary, one after the other. -/
def Host.putAll (host : Host) (o : ObjectId) (puts : List (Held × String × Value)) (w : World) :
    World :=
  puts.foldl (fun w c => ((host.put c.1 o c.2.1 c.2.2).runIn w).2) w

namespace World

variable {host : Host} {w u : World} {o : ObjectId} {d : Dictionary} {key : String} {a : Value}

/-- What it comes to when `a` is put into a dictionary: it is there under the key, which is reported
if the key is new or held a value that is not equal, and the value that was there is given back. -/
def PutsEntry (w : World) (o : ObjectId) (d : Dictionary) (key : String) (a : Value)
    (result : Except PropertyError (Option Value) × World) : Prop :=
  result.1 = .ok (d.entries.get? key) ∧
    result.2.objects =
      (w.setContent o (.dictionary { d with entries := d.entries.insert key a })).objects ∧
    result.2.reported = w.reported ++ w.reportsOf ⟨o, key⟩
      (match d.entries.get? key with
      | some old => if old == a then none else some old
      | none => some .null)

theorem putsEntry_put (nesting : 0 < host.nesting) (idle : host.IdleAt w o) (h : Held)
    (hd : (w.object o).content = .dictionary d) :
    w.PutsEntry o d key a ((host.put h o key a).runIn w) := by
  have hx : w.assign o key a = .ok (w.storeKey o d key a) := by
    unfold assign
    rw [hd]
  obtain ⟨u, run, objects, reported⟩ :=
    Host.exists_setProperty (p := ⟨o, key⟩) nesting idle h hx
  have previous : (w.object o).dictionary?.bind (fun d => d.entries.get? key) =
      d.entries.get? key := by
    unfold Object.dictionary?
    rw [hd]
    rfl
  unfold Host.put
  rw [Op.bind_runIn_of_ok (Op.read_runIn _ _), previous, Op.bind_runIn_of_ok run]
  exact ⟨rfl, objects, reported⟩

/-- What becomes of a dictionary by values that are put into it. -/
theorem object_putAll (nesting : 0 < host.nesting) (ho : o.index < w.objects.size)
    (idle : host.IdleAt w o) (hd : (w.object o).content = .dictionary d)
    (puts : List (Held × String × Value)) :
    (host.putAll o puts w).object o =
      ⟨.dictionary { d with entries := d.entries.insertAll (puts.map Prod.snd) },
        (w.object o).subscribers⟩ := by
  induction puts generalizing w d with
  | nil =>
    change w.object o = ⟨.dictionary d, _⟩
    rw [← hd]
  | cons c puts ih =>
    have wrote : w.PutsEntry o d c.2.1 c.2.2 ((host.put c.1 o c.2.1 c.2.2).runIn w) :=
      putsEntry_put nesting idle c.1 hd
    obtain ⟨-, objects, -⟩ := wrote
    have size : ((host.put c.1 o c.2.1 c.2.2).runIn w).2.objects.size = w.objects.size := by
      rw [objects]
      exact Array.size_modify
    have state : ((host.put c.1 o c.2.1 c.2.2).runIn w).2.object o =
        ⟨.dictionary { d with entries := d.entries.insert c.2.1 c.2.2 },
          (w.object o).subscribers⟩ := by
      unfold object
      rw [objects]
      exact (object_setContent ho _ o).trans (if_pos rfl)
    have idle' : host.IdleAt ((host.put c.1 o c.2.1 c.2.2).runIn w).2 o := by
      unfold Host.IdleAt
      rw [state]
      exact idle
    refine (ih (size ▸ ho) idle' (congrArg Object.content state)).trans ?_
    rw [state]
    rfl

end World

/-! ## Both -/

namespace Host

variable {host : Host}

/-- Where nobody who is told of changes writes, a bean keeps what its type declares whatever is
written to it, and a dictionary has its keys in the order in which they came and under each of them
the value that came last; and after all that, one write more changes one slot or entry and reports it
once if the value is another one, or fails and does nothing. -/
theorem keeps_declared_and_put (nesting : 0 < host.nesting) :
    (∀ (d : TypeDescriptor) (w₀ : World) (subscribers : List (String × Subscriber))
      (calls : List (Held × String × Value)), (∀ s ∈ subscribers, host.Idle s.2) →
        let o := (d.instantiate w₀).1
        let w := (d.instantiate w₀).2.subscribeAll o subscribers
        let u := host.setAll o calls w
        w.Conforms d o u ∧
          ∀ h name a, u.SetsSlot o name a ((host.setProperty h o name a).runIn u)) ∧
    ∀ (w : World) (o : ObjectId) (d : Dictionary) (puts : List (Held × String × Value)),
      o.index < w.objects.size → (w.object o).content = .dictionary d → host.IdleAt w o →
        let u := host.putAll o puts w
        ∃ d' : Dictionary, (u.object o).content = .dictionary d' ∧
          d'.entries.keys = d.entries.keys ++
            ((puts.map fun c => c.2.1).filter fun k => !d.entries.contains k).eraseDups ∧
          (∀ k, d'.entries.get? k = ((puts.map Prod.snd).reverse.lookup k).or (d.entries.get? k)) ∧
          ∀ h k a, u.PutsEntry o d' k a ((host.put h o k a).runIn u) := by
  constructor
  · intro d w₀ subscribers calls idle o w u
    obtain ⟨b, hb, makes⟩ := d.exists_bean_of_instantiate w₀
    have start : w.object o = ⟨.bean b, subscribers⟩ := by
      refine (World.object_subscribeAll (World.lt_size_of_bean (congrArg Object.content hb))).trans ?_
      rw [hb]
      rfl
    have fresh : w.HasBecome o b subscribers := ⟨b, start, List.forall₂_same.2 fun _ _ => ⟨rfl, .refl _⟩⟩
    have become : u.HasBecome o b subscribers := fresh.setAll nesting idle calls
    exact ⟨become.conforms start makes, become.setsSlot_setProperty nesting idle⟩
  · intro w o d puts ho hd idle u
    have state := World.object_putAll nesting ho idle hd puts
    have idle' : host.IdleAt u o := by
      unfold IdleAt
      rw [state]
      exact idle
    refine ⟨_, congrArg Object.content state, ?_, fun k => Entries.get?_insertAll k,
      fun h k a => World.putsEntry_put nesting idle' h (congrArg Object.content state)⟩
    rw [Entries.keys_insertAll, List.map_map]
    rfl

/-- A label with a watched width, and a dictionary that is put the same key twice. -/
theorem keeps_declared_and_put_label :
    let host := Host.plain "none"
    let held := Held.nothing
    let label : TypeDescriptor := ⟨"Label", .ofList [("text", .writable .string .null),
      ("width", .writable .int (.int 0)), ("styles", .readOnly fun w => (.bool true, w))], none, none⟩
    let watcher : String × Subscriber := ("width", .watcher "w")
    let calls : List (Held × String × Value) :=
      [(held, "width", .string "120"), (held, "styles", .null)]
    let o := (label.instantiate World.empty).1
    let w := (label.instantiate World.empty).2.subscribeAll o [watcher]
    let u := host.setAll o calls w
    let x : World := { World.empty with objects := #[⟨.dictionary ⟨"D", .empty, none⟩, [watcher]⟩] }
    let y := host.putAll ⟨0⟩ [(held, "b", .int 1), (held, "a", .null), (held, "b", .int 2)] x
    0 < host.nesting ∧ (∀ s ∈ [watcher], host.Idle s.2) ∧ host.IdleAt x ⟨0⟩ ∧
      w.Conforms label o u ∧
      u.SetsSlot o "width" .null ((host.setProperty held o "width" .null).runIn u) ∧
      ∃ d, (y.object ⟨0⟩).content = .dictionary d ∧ d.entries.keys = ["b", "a"] ∧
        d.entries.get? "b" = some (.int 2) := by
  intro host held label watcher calls o w u x y
  have nesting : 0 < host.nesting := by decide
  have idle : ∀ s ∈ [watcher], host.Idle s.2 := by
    intro s hs
    rw [List.mem_singleton.1 hs]
    exact host.idle_watcher "w"
  obtain ⟨beans, dictionaries⟩ := keeps_declared_and_put nesting
  obtain ⟨conforms, sets⟩ := beans label World.empty [watcher] calls idle
  obtain ⟨d, hd, keys, values, -⟩ := dictionaries x ⟨0⟩ ⟨"D", .empty, none⟩
    [(held, "b", .int 1), (held, "a", .null), (held, "b", .int 2)] (by decide) rfl idle
  exact ⟨nesting, idle, idle, conforms, sets held "width" .null, d, hd, keys.trans (by decide),
    (values "b").trans (by decide)⟩

end Host

end Bxml
