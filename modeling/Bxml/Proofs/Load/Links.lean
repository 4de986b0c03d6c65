import Bxml.Proofs.Load.Bindings
import Bxml.Proofs.Settling.Settled
import Bxml.Proofs.Spreading

/-!
# Bindings that follow each other

A binding whose source is a key that is not there yet can be applied once another binding has copied
a value to that key.  What is copied spreads along the bindings that are installed already, and none
of them makes a value null, so that a key that has got a value keeps one: bindings between
dictionaries that are bound to ids can be applied in every order in which each source is there or is
the target of a binding before.  Only null is not copied to a key that is not there.

* `exists_applyBindings_of_linked` is the result, and `World.Among.exists_applyBindings` the
  induction over the bindings.
* `World.Among` is its invariant: some objects that are held take any value, the bindings that start
  there have no mapping functions and stay among them, and no value under their keys is a NaN.
* `World.Among.exists_copyAlong` is one copy, by the lemmas of `Spreading.lean`, which say that it
  comes to an end and what it leaves.

`unlinked_by_null_or_nan` shows that both conditions are needed: a null is not copied, so that the
chain breaks, and a NaN goes round for ever.
-/

namespace Bxml

namespace Value

variable {a v : Value}

/-- Whether a value is neither null nor NaN. -/
def isRegular (a : Value) : Bool := !a.isNull && a.isNumberOrOther

theorem isRegular_iff : a.isRegular = true ↔ a ≠ .null ∧ a.isNumberOrOther = true := by
  cases a <;> simp [isRegular, isNull]

/-- A value that equals a regular one is regular. -/
theorem isRegular_of_beq (h : (v == a) = true) (ha : a.isRegular = true) :
    v.isRegular = true := by
  refine isRegular_iff.2 ⟨?_, isNumberOrOther_of_beq h⟩
  rintro rfl
  change same .null a = true at h
  cases a <;> simp only [same, Bool.false_eq_true] at h
  cases ha

end Value

namespace World

variable {w u : World} {p : Place} {h : Held} {o : ObjectId}

/-- A place that holds a value is there. -/
theorem hasProperty_of_value_ne_null (ht : w.TakesAny p) (hv : w.value p ≠ .null) :
    (w.object p.object).hasProperty p.key = true := by
  unfold TakesAny at ht
  unfold value Object.getProperty at hv
  unfold Object.hasProperty Object.propertyKind
  cases hc : (w.object p.object).content with
  | bean b =>
    rw [hc] at ht
    obtain ⟨v, hs⟩ := ht
    simp [hs, Slot.kind]
  | dictionary d =>
    rw [hc] at hv
    dsimp only
    rw [← Entries.isSome_get?]
    cases hg : d.entries.get? p.key with
    | none => simp [hg, Except.toOption] at hv
    | some v => rfl
  | list items =>
    rw [hc] at ht
    exact ht.elim

/-! ## How many bindings there are -/

theorem bindings_eq (w : World) : w.bindings =
    (w.objects.toList.map Object.subscribers).flatMap (·.filterMap fun p => p.2.binding?) := by
  unfold bindings
  rw [List.flatMap_map]

/-- As long as there are the same objects with the same subscribers, there are the same bindings. -/
theorem bindings_congr (size : u.objects.size = w.objects.size)
    (hs : ∀ o, (u.object o).subscribers = (w.object o).subscribers) : u.bindings = w.bindings := by
  have same : u.objects.toList.map Object.subscribers =
      w.objects.toList.map Object.subscribers := by
    refine List.ext_getElem (by simpa using size) fun i hu hw => ?_
    have hi := hs ⟨i⟩
    rw [List.length_map, Array.length_toList] at hu hw
    simpa [object, hu, hw] using hi
  rw [bindings_eq, bindings_eq, same]

theorem length_bindings_subscribe (w : World) (o : ObjectId) (k : String) (s : Subscriber) :
    (w.subscribe o k s).bindings.length ≤ w.bindings.length + 1 := by
  by_cases ho : o.index < w.objects.toList.length
  · obtain ⟨front, x, rest, hl, -, hm⟩ :=
      List.exists_of_modify (fun x => { x with subscribers := x.subscribers ++ [(k, s)] }) ho
    have objects : (w.subscribe o k s).objects.toList =
        front ++ { x with subscribers := x.subscribers ++ [(k, s)] } :: rest := by
      rw [← hm]
      exact Array.toList_modify
    unfold bindings
    rw [objects, hl]
    simp only [List.flatMap_append, List.flatMap_cons, List.filterMap_append, List.length_append]
    have one : ([(k, s)].filterMap fun p => p.2.binding?).length ≤ 1 :=
      List.length_filterMap_le _ _
    omega
  · have objects : (w.subscribe o k s).objects = w.objects := by
      refine Array.ext' ?_
      rw [show (w.subscribe o k s).objects.toList = w.objects.toList.modify o.index _ from
        Array.toList_modify, List.modify_eq_self (Nat.le_of_not_lt ho)]
    unfold bindings
    rw [objects]
    exact Nat.le_succ _

/-! ## Dictionaries that are held -/

/-- Whether some objects that are held take any value under every key, and the bindings that start
there have no mapping functions and stay among them. -/
structure Among (w : World) (h : Held) (D : ObjectId → Prop) : Prop where
  takesAny : ∀ p : Place, D p.object → w.TakesAny p
  rooted : ∀ o, D o → o.index < w.objects.size ∧ .object o ∈ w.rootValues h
  wired : ∀ p : Place, D p.object → ∀ b, .binding b ∈ (w.object p.object).subscribersOf p.key →
    b.origin = p ∧ b.mapping = none ∧ D b.target

namespace Among

variable {D : ObjectId → Prop} {a : Value} {b : Binding}

theorem rooted_of_sameFrame (hw : w.Among h D) (hs : World.SameFrame w u) (o : ObjectId)
    (ho : D o) : o.index < u.objects.size ∧ .object o ∈ u.rootValues h := by
  obtain ⟨size, root⟩ := hw.rooted o ho
  unfold rootValues table at root ⊢
  rw [hs.size, hs.tables]
  exact ⟨size, root⟩

/-- The held dictionaries as a scene in which `a` spreads. -/
def scene (hw : w.Among h D) (a : Value) : Scene where
  start := w
  core := h
  places p := D p.object
  may _ p c := D p.object ∧ (c == a) = true
  alive hv hp :=
    let ⟨size, root⟩ := hw.rooted_of_sameFrame (Reaches.sameFrame hv) _ hp
    isAlive_of_root root size

theorem carries (hw : w.Among h D) (a : Value) : (hw.scene a).Carries a w where
  may _ _ _ hp hc := ⟨hp, hc⟩
  reached := .refl
  takesAny := hw.takesAny
  wired := hw.wired
  bindings _ _ _ := mem_bindings

theorem of_carries (hw : w.Among h D) (hu : (hw.scene a).Carries a u) : u.Among h D where
  takesAny := hu.takesAny
  rooted := hw.rooted_of_sameFrame (Reaches.sameFrame hu.reached)
  wired := hu.wired

theorem emit (hw : w.Among h D) (e : Event) : (w.emit e).Among h D :=
  ⟨hw.takesAny, hw.rooted, hw.wired⟩

/-- A binding between held dictionaries is installed. -/
theorem subscribe (hw : w.Among h D) (hb : b.mapping = none) (hs : D b.source) (ht : D b.target) :
    (w.subscribe b.source b.sourceKey (.binding b)).Among h D := by
  have ho := (hw.rooted _ hs).1
  refine ⟨fun p hp => (takesAny_subscribe ho).2 (hw.takesAny p hp),
    hw.rooted_of_sameFrame ⟨rfl, rfl, Array.size_modify⟩, fun p hp c hc => ?_⟩
  unfold Object.subscribersOf at hc
  rw [subscribers_subscribe ho, List.filter_append, List.map_append, List.mem_append] at hc
  rcases hc with hc | hc
  · exact hw.wired p hp c hc
  · split_ifs at hc with he
    · simp only [List.filter_cons, List.filter_nil] at hc
      split at hc
      · next hk =>
        cases List.mem_singleton.1 hc
        obtain ⟨o, k⟩ := p
        cases he
        exact ⟨congrArg (Place.mk b.source) (beq_iff_eq.1 hk), hb, ht⟩
      · cases hc
    · cases hc

variable {held : Held}

/-- A regular value is copied along a binding, and spreads. -/
theorem exists_copyAlong (hw : w.Among h D) (host : Host) (hh : h.Within held)
    (hb : b.mapping = none) (hs : D b.source) (ht : D b.target)
    (ha : (w.value b.origin).isRegular = true) (hn : w.bindings.length < host.nesting) :
    ∃ u, (host.copyAlong host.setProperty held b).runIn w = (.ok (), u) ∧ u.Among h D ∧
      Spreads (w.value b.origin) w u ∧ (u.value b.goal == w.value b.origin) = true ∧
      SameFrame w u ∧ u.bindings = w.bindings := by
  let S := hw.scene (w.value b.origin)
  have carries : S.Carries (w.value b.origin) w := hw.carries _
  have alive : (w.isAlive held b.source && w.isAlive held b.target) = true := by
    rw [Bool.and_eq_true]
    exact ⟨carries.isAlive (p := b.origin) hs hh, carries.isAlive (p := b.goal) ht hh⟩
  have source : (w.object b.source).getProperty b.sourceKey = .ok (w.value b.origin) :=
    getProperty_of_takesAny (hw.takesAny b.origin hs)
  have target : (w.object b.target).holds b.targetKey (w.value b.origin) =
      (w.value b.goal == w.value b.origin) := by
    unfold Object.holds
    rw [show (w.object b.target).getProperty b.targetKey = _ from
      getProperty_of_takesAny (hw.takesAny b.goal ht)]
  have run :=
    Host.copyAlong_runIn_of_unmapped host host.setProperty hb alive source
  rw [target] at run
  by_cases there : (w.value b.goal == w.value b.origin) = true
  · rw [if_pos there] at run
    exact ⟨w, run, hw, fun _ => .inl rfl, there, ⟨rfl, rfl, rfl⟩, rfl⟩
  · rw [if_neg there] at run
    obtain ⟨u, ps, hu, changed⟩ := S.spreading _ (w.bindings.length + 1) carries
      (hh.keep [.object b.source, .object b.target]) (p := b.goal) ht
      (Value.beq_self (Value.isRegular_iff.1 ha).2) there
      fun x _ => Nat.lt_succ_of_le (x.world.behind_le_length _ _)
    have frame := Reaches.sameFrame changed.carries.reached
    exact ⟨u, run.trans (Op.mapError_runIn_eq_ok.2 (hu host host.nesting hn)),
      hw.of_carries changed.carries, changed.spread.spreads,
      changed.spread.arrived _ List.mem_cons_self, frame,
      bindings_congr frame.size changed.spread.subscribers⟩

end Among

end World

variable {l : Loader} {c : DocumentContext} {h held : Held} {language : String} {w : World}
  {D : ObjectId → Prop} {b : Binding}

/-- A connection whose source holds a regular value can be made. -/
theorem World.Among.exists_connect (hw : w.Among h D) (hh : h.Within held)
    (hb : b.mapping = none) (hs : D b.source) (ht : D b.target)
    (ha : (w.value b.origin).isRegular = true) (hn : w.bindings.length < l.host.nesting)
    (path : String) :
    ∃ u, (connect l held b path).runIn w = (.ok (), u) ∧ u.Among h D ∧
      World.Spreads (w.value b.origin) w u ∧ (u.value b.goal == w.value b.origin) = true ∧
      World.SameFrame w u ∧ u.bindings.length ≤ w.bindings.length + 1 := by
  obtain ⟨v, hv, among, spreads, arrived, frame, bindings⟩ :=
    hw.exists_copyAlong l.host hh hb hs ht ha hn
  have publishes : (v.object b.source).publishes = true :=
    World.publishes_of_takesAny (among.takesAny b.origin hs)
  let text := s!"Bound {v.typeName b.source}.{b.sourceKey} to {v.typeName b.target}.{b.targetKey}"
  let u := (v.log .debug text).subscribe b.source b.sourceKey (.binding b)
  have run : (connect l held b path).runIn w = (.ok (), u) := by
    unfold connect
    rw [Op.bind_runIn_of_ok (Op.mapError_runIn_eq_ok.2 hv)]
    simp only [Op.bind_runIn, Op.typeName_runIn, Op.read_runIn, publishes, if_true, Op.log_runIn,
      Op.change_runIn]
    rfl
  have ho : b.source.index < v.objects.size := (among.rooted _ hs).1
  have value (p : Place) : u.value p = v.value p :=
    World.value_subscribe (w := v.log .debug text) ho
  refine ⟨u, run, (among.emit _).subscribe hb hs ht, fun p => ?_, ?_, ?_, ?_⟩
  · rw [value]
    exact spreads p
  · rw [value]
    exact arrived
  · exact ⟨frame.tables, frame.exhausted, Array.size_modify.trans frame.size⟩
  · rw [← bindings]
    exact World.length_bindings_subscribe _ _ _ _

/-! ## Bindings one after the other -/

namespace PendingBinding

/-- The place that a binding copies from if its path is an id of an object and a key. -/
def source? (p : PendingBinding) (ids : Entries Value) : Option Place :=
  match p.segments with
  | [id, key] => ((ids.get? id).bind Value.object?).map fun o => ⟨o, key⟩
  | _ => none

theorem segments_of_source? {p : PendingBinding} {ids : Entries Value} {q : Place}
    (h : p.source? ids = some q) :
    ∃ id, p.segments = [id, q.key] ∧ ids.get? id = some (.object q.object) := by
  unfold source? at h
  split at h
  · next id key hs =>
    obtain ⟨o, ho, rfl⟩ := Option.map_eq_some_iff.1 h
    obtain ⟨v, hv, ho⟩ := Option.bind_eq_some_iff.1 ho
    rw [Value.object?_eq_some] at ho
    exact ⟨id, hs, by rw [hv, ho]⟩
  · cases h

/-- Whether a binding without a mapping function connects keys of some objects, the first of which
is bound to an id. -/
structure Connects (p : PendingBinding) (ids : Entries Value) (D : ObjectId → Prop) : Prop where
  unmapped : p.Unmapped
  source : ∃ q, p.source? ids = some q ∧ D q.object
  target : D p.target

end PendingBinding

variable {p : PendingBinding} {ps : List PendingBinding} {q : Place}

/-- A binding whose source holds a regular value can be applied. -/
theorem World.Among.exists_bind (hw : w.Among h D) (l : Loader) (c : DocumentContext)
    (language : String) (hh : h.Within held)
    (hp : p.Connects (w.table c.table) D) (hq : p.source? (w.table c.table) = some q)
    (ha : (w.value q).isRegular = true) (hn : w.bindings.length < l.host.nesting) :
    ∃ u, (bind l c held language p).runIn w = (.ok (), u) ∧ u.Among h D ∧
      World.Spreads (w.value q) w u ∧ (u.value p.place == w.value q) = true ∧
      World.SameFrame w u ∧ u.bindings.length ≤ w.bindings.length + 1 := by
  obtain ⟨id, hs, hid⟩ := PendingBinding.segments_of_source? hq
  obtain ⟨q', hq', hD⟩ := hp.source
  cases hq.symm.trans hq'
  have has : (w.object q.object).hasProperty q.key = true :=
    World.hasProperty_of_value_ne_null (hw.takesAny q hD) (Value.isRegular_iff.1 ha).1
  have written : (splitMapping p.expression).2.isEmpty = false := by
    refine Bool.eq_false_iff.2 fun he => ?_
    rw [String.isEmpty_iff] at he
    unfold PendingBinding.segments at hs
    rw [he] at hs
    cases hs
  obtain ⟨u, hu, rest⟩ := hw.exists_connect (l := l)
    (b := ⟨q.object, q.key, p.target, p.targetKey, none⟩)
    ((hh.keep [.object p.target]).keep [.object q.object]) rfl hD hp.target ha hn
    (splitMapping p.expression).2
  exact ⟨u, (bind_eq_ok_iff hp.unmapped).2 ⟨written, .inr ⟨[id], q.key, q.object, hs,
    List.cons_ne_nil _ _, resolve_singleton.2 hid, has, hu⟩⟩, rest⟩

/-- Bindings can be applied one after the other if each source holds a regular value already, or is
the target of a binding before. -/
theorem World.Among.exists_applyBindings (hw : w.Among h D) (l : Loader) (c : DocumentContext)
    (language : String) (there : Place → Prop)
    (hp : ∀ p ∈ ps, p.Connects (w.table c.table) D)
    (regular : ∀ q, there q → (w.value q).isRegular = true)
    (linked : ∀ front p rest, ps = front ++ p :: rest → ∀ q,
      p.source? (w.table c.table) = some q → there q ∨ ∃ r ∈ front, r.place = q)
    (hn : w.bindings.length + ps.length ≤ l.host.nesting) :
    ∃ u, (applyBindings l c h language ps).runIn w = (.ok (), u) ∧ u.exhausted = w.exhausted ∧
      u.Among h D ∧ (∀ q, there q → (u.value q).isRegular = true) ∧
      ∀ p ∈ ps, (u.value p.place).isRegular = true := by
  induction ps generalizing w there with
  | nil => exact ⟨w, rfl, rfl, hw, regular, List.forall_mem_nil _⟩
  | cons p ps ih =>
    have connects := hp p List.mem_cons_self
    obtain ⟨q, hq, -⟩ := connects.source
    have value : (w.value q).isRegular = true := by
      refine regular q ((linked [] p ps rfl q hq).resolve_right ?_)
      rintro ⟨_, hr, -⟩
      cases hr
    rw [List.length_cons] at hn
    obtain ⟨v, hv, among, spreads, arrived, frame, bindings⟩ :=
      hw.exists_bind l c language
        ((Held.Within.refl h).keep (ps.map fun q => .object q.target)) connects hq value (by omega)
    have table : v.table c.table = w.table c.table := by
      unfold World.table
      rw [frame.tables]
    -- whatever holds a regular value keeps one, and the target has got one
    have kept : ∀ r, there r ∨ r = p.place → (v.value r).isRegular = true := by
      rintro r (hr | rfl)
      · rcases spreads r with same | same
        · rw [same]
          exact regular r hr
        · exact Value.isRegular_of_beq same value
      · exact Value.isRegular_of_beq arrived value
    obtain ⟨u, hu, exhausted, among', before, after⟩ := ih among
      (fun r => there r ∨ r = p.place)
      (fun p hp' => table ▸ hp p (List.mem_cons_of_mem _ hp')) kept
      (fun front r rest hs q hq => by
        rw [table] at hq
        rcases linked (p :: front) r rest (by rw [hs]; rfl) q hq with hq | ⟨r, hr, rfl⟩
        · exact .inl (.inl hq)
        · rcases List.mem_cons.1 hr with rfl | hr
          · exact .inl (.inr rfl)
          · exact .inr ⟨r, hr, rfl⟩) (by omega)
    refine ⟨u, ?_, exhausted.trans frame.exhausted, among', fun q hq => before q (.inl hq), ?_⟩
    · unfold applyBindings
      rw [Op.bind_runIn_of_ok hv]
      exact hu
    · rintro r (_ | ⟨_, hr⟩)
      · exact before _ (.inr rfl)
      · exact after r hr

/-! ## Dictionaries that are bound to ids -/

theorem Entries.mem_values_of_get? {α : Type} {m : Entries α} {k : String} {a : α}
    (hm : m.get? k = some a) : a ∈ m.values := by
  obtain ⟨front, rest, hl, -⟩ := List.lookup_eq_some_iff.1 hm
  unfold Entries.values
  rw [hl]
  simp

/-- Whether an id of a table is bound to a dictionary. -/
def World.NamesDictionary (w : World) (t : TableId) (o : ObjectId) : Prop :=
  (∃ id, (w.table t).get? id = some (.object o)) ∧ o.index < w.objects.size ∧
    (w.object o).dictionary?.isSome = true

theorem World.takesAny_of_dictionary {k : String} {o : ObjectId}
    (hd : (w.object o).dictionary?.isSome = true) : w.TakesAny ⟨o, k⟩ := by
  unfold World.TakesAny Content.TakesAny
  unfold Object.dictionary? at hd
  cases hc : (w.object o).content with
  | dictionary d => trivial
  | _ =>
    rw [hc] at hd
    cases hd

/-- Bindings without mapping functions between dictionaries that are bound to ids can be applied, if
each source is there before or is the target of an earlier binding, and no source that is there
before holds null or NaN. -/
theorem exists_applyBindings_of_linked (l : Loader) (c : DocumentContext) (h : Held)
    (language : String) (w : World) (ps : List PendingBinding) (held : c.table ∈ h.tables)
    (connects : ∀ p ∈ ps, p.Connects (w.table c.table) (w.NamesDictionary c.table))
    (linked : ∀ front p rest, ps = front ++ p :: rest → ∀ q,
      p.source? (w.table c.table) = some q →
      (w.object q.object).hasProperty q.key = true ∨ ∃ r ∈ front, r.place = q)
    (regular : ∀ p ∈ ps, ∀ q, p.source? (w.table c.table) = some q →
      (w.object q.object).hasProperty q.key = true → (w.value q).isRegular = true)
    (wired : ∀ q : Place, w.NamesDictionary c.table q.object →
      ∀ b, .binding b ∈ (w.object q.object).subscribersOf q.key →
        b.origin = q ∧ b.mapping = none ∧ w.NamesDictionary c.table b.target)
    (nesting : w.bindings.length + ps.length ≤ l.host.nesting) :
    ∃ u, (applyBindings l c h language ps).runIn w = (.ok (), u) ∧ u.exhausted = w.exhausted ∧
      ∀ p ∈ ps, (u.object p.target).hasProperty p.targetKey = true := by
  have among : w.Among h (w.NamesDictionary c.table) := {
    takesAny := fun _ hp => World.takesAny_of_dictionary hp.2.2
    rooted := by
      rintro o ⟨⟨id, hid⟩, size, -⟩
      exact ⟨size, List.mem_append_right _
        (List.mem_flatMap.2 ⟨c.table, held, Entries.mem_values_of_get? hid⟩)⟩
    wired }
  obtain ⟨u, hu, exhausted, among', -, after⟩ := among.exists_applyBindings l c language
    (fun q => (w.object q.object).hasProperty q.key = true ∧
      ∃ p ∈ ps, p.source? (w.table c.table) = some q) connects
    (fun q ⟨has, p, hp, hq⟩ => regular p hp q hq has)
    (fun front p rest hs q hq => by
      rcases linked front p rest hs q hq with has | earlier
      · exact .inl ⟨has, p, hs ▸ List.mem_append_right _ List.mem_cons_self, hq⟩
      · exact .inr earlier) nesting
  exact ⟨u, hu, exhausted, fun p hp => World.hasProperty_of_value_ne_null
    (among'.takesAny p.place (connects p hp).target) (Value.isRegular_iff.1 (after p hp)).1⟩

/-- A dictionary of no particular use. -/
def dictionaryOf (entries : List (String × Value)) (subscribers : List (String × Subscriber)) :
    Object := ⟨.dictionary ⟨"A", .ofList entries, none⟩, subscribers⟩

/-- A document whose ids are those of the first table. -/
def firstTable : DocumentContext := ⟨none, ⟨0⟩, none, 0, .nothing⟩

/-- Two bindings in a row, the first of which copies to a key that is not there, while the target of
the second one is bound to another key already. -/
theorem exists_applyBindings_of_linked_row :
    let w : World := {
      World.empty with
      objects := #[dictionaryOf [("x", .int 1)] [], dictionaryOf [] [],
        dictionaryOf [] [("x", .binding ⟨⟨2⟩, "x", ⟨0⟩, "z", none⟩)]]
      tables := #[.ofList [("a", .object ⟨0⟩), ("b", .object ⟨1⟩), ("c", .object ⟨2⟩)]] }
    let ps : List PendingBinding := [⟨⟨1⟩, "x", "a.x", ⟨1, 1⟩⟩, ⟨⟨2⟩, "x", "b.x", ⟨1, 1⟩⟩]
    ∃ u, (applyBindings .plain firstTable ⟨[], [⟨0⟩]⟩ defaultLanguage ps).runIn w = (.ok (), u) ∧
      u.exhausted = w.exhausted ∧
      ∀ p ∈ ps, (u.object p.target).hasProperty p.targetKey = true := by
  intro w ps
  have names : ∀ o ∈ [(⟨0⟩ : ObjectId), ⟨1⟩, ⟨2⟩], w.NamesDictionary firstTable.table o := by
    intro o ho
    simp only [List.mem_cons, List.not_mem_nil, or_false] at ho
    rcases ho with rfl | rfl | rfl
    · exact ⟨⟨"a", by decide +kernel⟩, by decide, rfl⟩
    · exact ⟨⟨"b", by decide +kernel⟩, by decide, rfl⟩
    · exact ⟨⟨"c", by decide +kernel⟩, by decide, rfl⟩
  have wired : w.IsWired := World.isWired_of_objects (by decide +kernel)
  have targets : ∀ b ∈ w.bindings, b.target ∈ [(⟨0⟩ : ObjectId), ⟨1⟩, ⟨2⟩] := by decide +kernel
  have regular : ∀ p ∈ ps, ∀ q ∈ p.source? (w.table firstTable.table),
      (w.object q.object).hasProperty q.key = true → (w.value q).isRegular = true := by
    decide +kernel
  refine exists_applyBindings_of_linked .plain firstTable ⟨[], [⟨0⟩]⟩ defaultLanguage w ps
    List.mem_cons_self ?connects ?linked regular ?wired (by decide +kernel)
  case connects =>
    intro p hp
    simp only [ps, List.mem_cons, List.not_mem_nil, or_false] at hp
    rcases hp with rfl | rfl
    · exact ⟨by unfold PendingBinding.Unmapped; decide +kernel,
        ⟨⟨⟨0⟩, "x"⟩, by decide +kernel, names _ (by decide)⟩, names _ (by decide)⟩
    · exact ⟨by unfold PendingBinding.Unmapped; decide +kernel,
        ⟨⟨⟨1⟩, "x"⟩, by decide +kernel, names _ (by decide)⟩, names _ (by decide)⟩
  case linked =>
    intro front p rest hs q hq
    obtain hs : [⟨⟨1⟩, "x", "a.x", ⟨1, 1⟩⟩, ⟨⟨2⟩, "x", "b.x", ⟨1, 1⟩⟩] = front ++ p :: rest := hs
    rcases front with _ | ⟨r, _ | ⟨_, _ | _⟩⟩ <;> cases hs
    · have there : ∀ q ∈ PendingBinding.source? ⟨⟨1⟩, "x", "a.x", ⟨1, 1⟩⟩
          (w.table firstTable.table), (w.object q.object).hasProperty q.key = true := by
        decide +kernel
      exact .inl (there q hq)
    · have earlier : ∀ q ∈ PendingBinding.source? ⟨⟨2⟩, "x", "b.x", ⟨1, 1⟩⟩
          (w.table firstTable.table), q = ⟨⟨1⟩, "x"⟩ := by decide +kernel
      exact .inr ⟨_, List.mem_cons_self, (earlier q hq).symm⟩
  case wired =>
    intro q _ b hb
    obtain ⟨origin, unmapped, -⟩ := wired q b hb
    exact ⟨origin, unmapped, names _ (targets b (World.mem_bindings hb))⟩

/-- Two dictionaries whose keys are bound to each other, and a NaN. -/
def circle : World := {
  World.empty with
  objects := #[dictionaryOf [("x", .int 1)] [("x", .binding ⟨⟨0⟩, "x", ⟨1⟩, "x", none⟩)],
    dictionaryOf [("x", .int 1)] [("x", .binding ⟨⟨1⟩, "x", ⟨0⟩, "x", none⟩)],
    dictionaryOf [("x", .float .nan)] []]
  tables := #[.ofList [("a", .object ⟨0⟩), ("b", .object ⟨1⟩), ("c", .object ⟨2⟩)]] }

/-- A NaN that is copied into a circle is passed on more often than any host allows. -/
theorem exhausted_circle (l : Loader) :
    ((applyBindings l firstTable ⟨[.object ⟨1⟩], [⟨0⟩]⟩ defaultLanguage
      [⟨⟨0⟩, "x", "c.x", ⟨1, 1⟩⟩]).runIn circle).2.exhausted = true := by
  let b : Binding := ⟨⟨2⟩, "x", ⟨0⟩, "x", none⟩
  let held : Held := ⟨[.object ⟨2⟩, .object ⟨0⟩, .object ⟨1⟩], [⟨0⟩]⟩
  have hp : circle.Feeds (.float .nan) ⟨⟨0⟩, "x"⟩ ⟨⟨1⟩, "x"⟩ :=
    ⟨⟨.any, by decide +kernel, rfl⟩, ⟨_, rfl, rfl, rfl, rfl⟩⟩
  have hq : circle.Feeds (.float .nan) ⟨⟨1⟩, "x"⟩ ⟨⟨0⟩, "x"⟩ :=
    ⟨⟨.any, by decide +kernel, rfl⟩, ⟨_, rfl, rfl, rfl, rfl⟩⟩
  have copied : ((l.host.copyAlong l.host.setProperty held b).runIn circle).2.exhausted = true :=
    World.exhausted_copyAlong l.host _ (by decide +kernel) rfl rfl (by decide +kernel)
      (World.exhausted_of_feeds l.host (by decide +kernel) l.host.nesting hp hq
        (by simp [held, Held.keep]) (by simp [held, Held.keep]))
  have connected : ((connect l held b "c.x").runIn circle).2.exhausted = true := by
    unfold connect
    rw [Op.bind_runIn, Op.mapError_runIn]
    rcases run : (l.host.copyAlong l.host.setProperty held b).runIn circle with ⟨_ | _, u⟩ <;>
      rw [run] at copied
    · exact copied
    · simp only [Op.bind_runIn, Op.typeName_runIn, Op.read_runIn]
      cases (u.object b.source).publishes <;> exact copied
  have source : (bindingSource firstTable ["c"] "x" "c.x").runIn circle = (.ok ⟨2⟩, circle) :=
    bindingSource_eq_ok.2 ⟨rfl, by decide +kernel, rfl⟩
  have plain : splitMapping "c.x" = (none, "c.x") := by decide +kernel
  have segments : pathSegments "c.x" = ["c", "x"] := by decide +kernel
  have written : (!"c.x".isEmpty) = true := by decide +kernel
  have run : (bind l firstTable (Held.keep ⟨[.object ⟨1⟩], [⟨0⟩]⟩ []) defaultLanguage
      ⟨⟨0⟩, "x", "c.x", ⟨1, 1⟩⟩).runIn circle = (connect l held b "c.x").runIn circle := by
    unfold bind mappingNamed bindProperty require
    simp only [plain, written, segments, if_true]
    change (bindingSource firstTable ["c"] "x" "c.x" >>= fun o => connect l
      (Held.keep (Held.keep (Held.keep ⟨[.object ⟨1⟩], [⟨0⟩]⟩ []) [.object ⟨0⟩]) [.object o])
      ⟨o, "x", ⟨0⟩, "x", none⟩ "c.x").runIn circle = _
    rw [Op.bind_runIn_of_ok source]
    rfl
  unfold applyBindings
  rw [Op.bind_runIn, List.map_nil, run]
  rcases result : (connect l held b "c.x").runIn circle with ⟨_ | _, u⟩ <;>
    rw [result] at connected <;> exact connected

/-- Null is not copied to a key that is not there, so that a chain of bindings breaks, and NaN goes
round for ever between two keys that are bound to each other. -/
theorem unlinked_by_null_or_nan :
    let w : World := {
      World.empty with
      objects := #[dictionaryOf [("x", .null)] [], dictionaryOf [] [], dictionaryOf [] []]
      tables := circle.tables }
    let h : Held := ⟨[.object ⟨1⟩], [⟨0⟩]⟩
    let row : List PendingBinding := [⟨⟨1⟩, "x", "a.x", ⟨1, 1⟩⟩, ⟨⟨2⟩, "x", "b.x", ⟨1, 1⟩⟩]
    let single : List PendingBinding := [⟨⟨0⟩, "x", "c.x", ⟨1, 1⟩⟩]
    (row.map (·.source? (w.table ⟨0⟩)) = [some ⟨⟨0⟩, "x"⟩, some ⟨⟨1⟩, "x"⟩] ∧
      (w.object ⟨0⟩).hasProperty "x" = true ∧
      ((applyBindings .plain firstTable h defaultLanguage row).runIn w).1.mapError
        LoadError.message = .error "Value \"b.x\" is not defined") ∧
    single.map (·.source? (circle.table ⟨0⟩)) = [some ⟨⟨2⟩, "x"⟩] ∧
      (circle.object ⟨2⟩).hasProperty "x" = true ∧
      ∀ l,
        ((applyBindings l firstTable h defaultLanguage single).runIn circle).2.exhausted = true :=
  ⟨⟨by decide +kernel, by decide +kernel, by decide +kernel⟩, by decide +kernel, by decide +kernel,
    exhausted_circle⟩

end Bxml
