import Bxml.Proofs.Spreading
import Bxml.Proofs.Watching

/-!
# What becomes of the bindings that are told

A write tells the bindings of a place one after the other.  Each of them stores the value, converted
to the type of its target, or leaves its target alone: because that holds an equal value already,
because the mapping function fails or because the target refuses the value.  Where the targets are
different places from which nothing goes on, what becomes of one does not depend on the others, and
each failure is reported once.

* `Binding.outcome` is what becomes of one binding, as a function of the value at its source; it has
  a constructor of `BindingOutcome` for each case.
* `Host.exists_tell` tells one binding, `exists_tell_all` those of a list, and
  `Host.exists_setProperty_of_sinks` is the result for a write.
* `Fans` is what the induction over the subscribers carries: targets that are different places, none
  of them the source, from which no binding leads on.  `World.Differs` compares worlds up to such
  writes, and `Binding.outcome_of_differs` says that they do not touch what becomes of the others.

The results of mapping functions are a parameter (`MappingResults`), as functions come from a host;
`Host.Computes` says that a function has them whatever happened before.  `kept_unconverted` is the
case in which a target keeps a value of another type: it holds an equal one before conversion.
-/

namespace Bxml

/-- Whether an event is a log record of an error. -/
def Event.isErrorRecord : Event → Bool
  | .log .error _ => true
  | _ => false

theorem Event.not_isErrorRecord_of_isChange {e : Event} (h : e.isChange = true) :
    e.isErrorRecord = false := by
  cases e with
  | changed => rfl
  | _ => cases h

/-- What mapping functions make of values, in worlds whose objects have types of certain names. -/
abbrev MappingResults := Mapping → (ObjectId → String) → Value → Except ScriptError Value

/-- Whether a mapping function has known results: they depend on nothing but the value and the names
of types, and the function changes no object and logs no error. -/
def Host.Computes (host : Host) (f : MappingResults) (m : Mapping) : Prop :=
  ∀ h v w, ∃ es : List Event, (∀ e ∈ es, e.isErrorRecord = false) ∧
    ((host.engine m.engine).invoke m.function h [v]).runIn w = (f m w.typeName v, w.emitAll es)

/-- What becomes of a binding that is told of a change. -/
inductive BindingOutcome
  /-- The target is to hold the value. -/
  | stored (v : Value)
  /-- The target holds an equal value already. -/
  | kept
  | failed (e : BindingError)

/-- What a target reads that read `r` before. -/
def BindingOutcome.reading (r : Except PropertyError Value) : BindingOutcome → Except PropertyError Value
  | .stored v => .ok v
  | _ => r

namespace Binding

/-- What the mapping function of a binding, if there is one, makes of a value. -/
def mapped (b : Binding) (f : MappingResults) (typeName : ObjectId → String) (v : Value) :
    Except BindingError Value :=
  match b.mapping with
  | some m => (f m typeName v).mapError .script
  | none => .ok v

/-- What becomes of a binding if its source holds `v`. -/
def outcome (b : Binding) (f : MappingResults) (w : World) (v : Value) : BindingOutcome :=
  match b.mapped f w.typeName v with
  | .error e => .failed e
  | .ok a =>
    if (w.object b.target).holds b.targetKey a then .kept
    else
      match w.converted b.goal a with
      | .ok c => .stored c
      | .error e => .failed (.property e)

/-- The record of a failure. -/
def record? (b : Binding) : BindingOutcome → Option Event
  | .failed e => some (.log .error s!"Failed to propagate binding {b.inspect}: {e.message}")
  | _ => none

end Binding

namespace World

variable {w u v : World} {p q : Place} {a c previous : Value}
  {slots slots' : List (ObjectId × (String ⊕ Nat))} {errors errors' : List Event}

/-- The bindings that are told of changes of a place. -/
def bindingsAt (w : World) (p : Place) : List Binding :=
  ((w.object p.object).subscribersOf p.key).filterMap Subscriber.binding?

theorem mem_bindingsAt {b : Binding} :
    b ∈ w.bindingsAt p ↔ .binding b ∈ (w.object p.object).subscribersOf p.key := by
  unfold bindingsAt
  rw [List.mem_filterMap]
  refine ⟨fun ⟨s, hs, hb⟩ => ?_, fun hb => ⟨_, hb, rfl⟩⟩
  cases s with
  | watcher => cases hb
  | binding => cases hb; exact hs

theorem bindingsAt_congr (hs : ∀ o, (v.object o).subscribers = (w.object o).subscribers) :
    v.bindingsAt p = w.bindingsAt p := by
  unfold bindingsAt Object.subscribersOf
  rw [hs]

/-- Where subscribers are told of a change, no two keys stand for the same slot. -/
theorem eq_of_slot_eq (hx : w.assign p.object p.key a = .ok ⟨v, some previous⟩)
    (hq : w.slot q = w.slot p) : q = p := by
  obtain ⟨object, key⟩ := Prod.mk.inj hq
  have single : ∀ items, (w.object p.object).content ≠ .list items := by
    intro items hc
    unfold assign at hx
    rw [hc] at hx
    cases hi : Object.index? items p.key <;> simp [hi] at hx
  obtain ⟨o, k⟩ := q
  obtain rfl : o = p.object := object
  rw [Object.slot_of_not_list single, Object.slot_of_not_list single] at key
  obtain rfl : k = p.key := Sum.inl.inj key
  rfl

/-- Whether a world has become another by writes to some slots and these error records. -/
structure Differs (w : World) (slots : List (ObjectId × (String ⊕ Nat))) (errors : List Event)
    (v : World) : Prop where
  read : ∀ q, w.slot q ∉ slots → v.read q = w.read q
  converted : ∀ q a, v.converted q a = w.converted q a
  slot : ∀ q, v.slot q = w.slot q
  typeName : v.typeName = w.typeName
  subscribers : ∀ o, (v.object o).subscribers = (w.object o).subscribers
  size : v.objects.size = w.objects.size
  tables : v.tables = w.tables
  exhausted : v.exhausted = w.exhausted
  trace : ∃ es, v.trace.toList = w.trace.toList ++ es ∧ es.filter Event.isErrorRecord = errors

namespace Differs

theorem refl (w : World) : w.Differs [] [] w :=
  ⟨fun _ _ => rfl, fun _ _ => rfl, fun _ => rfl, rfl, fun _ => rfl, rfl, rfl, rfl,
    [], (List.append_nil _).symm, rfl⟩

theorem trans (h : w.Differs slots errors u) (k : u.Differs slots' errors' v) :
    w.Differs (slots ++ slots') (errors ++ errors') v where
  read q hq := by
    rw [List.mem_append, not_or] at hq
    rw [k.read q (by rw [h.slot]; exact hq.2), h.read q hq.1]
  converted q a := (k.converted q a).trans (h.converted q a)
  slot q := (k.slot q).trans (h.slot q)
  typeName := k.typeName.trans h.typeName
  subscribers o := (k.subscribers o).trans (h.subscribers o)
  size := k.size.trans h.size
  tables := k.tables.trans h.tables
  exhausted := k.exhausted.trans h.exhausted
  trace := by
    obtain ⟨es, he, hf⟩ := h.trace
    obtain ⟨es', he', hf'⟩ := k.trace
    exact ⟨es ++ es', by rw [he', he, List.append_assoc], by rw [List.filter_append, hf, hf']⟩

theorem mono (h : w.Differs slots errors v) (hs : slots ⊆ slots') : w.Differs slots' errors v :=
  { h with read := fun q hq => h.read q fun hm => hq (hs hm) }

theorem of_wrote (h : w.Wrote p c v) : w.Differs [w.slot p] [] v where
  read q hq := h.read_of_ne q (List.ne_of_not_mem_cons hq)
  converted := h.converted
  slot := h.slot
  typeName := h.typeName
  subscribers := h.subscribers
  size := h.size
  tables := h.tables
  exhausted := h.exhausted
  trace := ⟨[], by rw [h.trace, List.append_nil], rfl⟩

theorem emitAll (w : World) (es : List Event) :
    w.Differs [] (es.filter Event.isErrorRecord) (w.emitAll es) := by
  rw [emitAll_eq]
  exact ⟨fun _ _ => rfl, fun _ _ => rfl, fun _ => rfl, rfl, fun _ => rfl, rfl, rfl, rfl,
    es, by simp, rfl⟩

/-- Events that are no errors leave no mark. -/
theorem emitAll_of_no_error {es : List Event} (h : ∀ e ∈ es, e.isErrorRecord = false) :
    w.Differs [] [] (w.emitAll es) := by
  have filtered : es.filter Event.isErrorRecord = [] :=
    List.filter_eq_nil_iff.2 fun e he => by rw [h e he]; exact Bool.false_ne_true
  have hd := emitAll w es
  rwa [filtered] at hd

end Differs

end World

section

variable {host : Host} {f : MappingResults} {h : Held} {b : Binding} {w u : World} {c : Value}
  {slots : List (ObjectId × (String ⊕ Nat))} {errors : List Event} {name : String}

/-- What becomes of a binding does not depend on other slots than its target. -/
theorem Binding.outcome_of_differs (hu : w.Differs slots errors u) (hb : w.slot b.goal ∉ slots)
    (f : MappingResults) (c : Value) : b.outcome f u c = b.outcome f w c := by
  have target : (u.object b.target).holds b.targetKey = (w.object b.target).holds b.targetKey := by
    funext a
    unfold Object.holds
    rw [show (u.object b.target).getProperty b.targetKey = _ from hu.read b.goal hb]
    rfl
  unfold outcome
  simp only [hu.typeName, target, hu.converted]

theorem Host.mapped_runIn (hf : ∀ m, b.mapping = some m → host.Computes f m) :
    ∃ es : List Event, (∀ e ∈ es, e.isErrorRecord = false) ∧
      (host.mapped h b.mapping c).runIn w = (b.mapped f w.typeName c, w.emitAll es) := by
  unfold Host.mapped Binding.mapped
  cases hm : b.mapping with
  | none => exact ⟨[], List.forall_mem_nil _, rfl⟩
  | some m =>
    obtain ⟨es, quiet, run⟩ := hf m hm h c w
    refine ⟨es, quiet, ?_⟩
    dsimp only
    rw [Op.mapError_runIn, run]
    cases f m w.typeName c <;> rfl

/-- A list of subscribers without bindings consists of watchers. -/
theorem exists_labels {l : List Subscriber} (hl : l.filterMap Subscriber.binding? = []) :
    ∃ labels : List String, l = labels.map .watcher := by
  induction l with
  | nil => exact ⟨[], rfl⟩
  | cons s l ih =>
    cases s with
    | watcher label =>
      obtain ⟨labels, rfl⟩ := ih hl
      exact ⟨label :: labels, rfl⟩
    | binding b => cases hl

/-- One binding between living objects is told that its source holds `c`. -/
theorem Host.exists_tell (n : Nat) (hf : ∀ m, b.mapping = some m → host.Computes f m)
    (hs : w.isAlive h b.source = true) (ht : w.isAlive h b.target = true)
    (hc : w.read b.origin = .ok c)
    (hq : w.bindingsAt b.goal = []) (name : String) (previous : Value) :
    ∃ v, (host.tell (host.write (n + 1)) h name previous (.binding b)).runIn w = (.ok (), v) ∧
      w.Differs [w.slot b.goal] (b.record? (b.outcome f w c)).toList v ∧
      v.read b.goal = (b.outcome f w c).reading (w.read b.goal) := by
  have alive : (w.isAlive h b.source && w.isAlive h b.target) = true := by rw [hs, ht]; rfl
  obtain ⟨es, quiet, mapped⟩ := host.mapped_runIn
    (h := h.keep [.object b.source, .object b.target]) (w := w) (c := c) hf
  have copy := copyAlong_runIn host (host.write (n + 1)) alive hc
  dsimp only at copy
  rw [mapped] at copy
  have before := World.Differs.emitAll_of_no_error (w := w) quiet
  have unread := before.read b.goal List.not_mem_nil
  -- the target is left alone by a failure
  have failed {e : BindingError}
      (hr : (host.copyAlong (host.write (n + 1)) h b).runIn w = (.error e, w.emitAll es)) :
      ∃ v, (host.tell (host.write (n + 1)) h name previous (.binding b)).runIn w = (.ok (), v) ∧
        w.Differs [w.slot b.goal] (b.record? (.failed e)).toList v ∧
        v.read b.goal = (BindingOutcome.failed e).reading (w.read b.goal) := by
    let record : Event := .log .error s!"Failed to propagate binding {b.inspect}: {e.message}"
    refine ⟨_, tell_of_error hr name previous, ?_, unread⟩
    exact (before.trans (.emitAll _ [record])).mono (List.nil_subset _)
  unfold Binding.outcome
  cases hm : b.mapped f w.typeName c with
  | error e =>
    rw [hm] at copy
    exact failed copy
  | ok a =>
    rw [hm] at copy
    have object : (w.emitAll es).object b.target = w.object b.target := by
      rw [World.emitAll_eq]
      rfl
    dsimp only at copy ⊢
    rw [object] at copy
    by_cases holds : (w.object b.target).holds b.targetKey a = true
    · rw [if_pos holds] at copy ⊢
      exact ⟨_, tell_of_ok copy name previous, before.mono (List.nil_subset _), unread⟩
    rw [if_neg holds] at copy ⊢
    cases hw : w.converted b.goal a with
    | error e =>
      have refused := host.write_of_refused (p := b.goal)
        (h := h.keep [.object b.source, .object b.target]) (n + 1)
        ((before.converted b.goal a).trans hw)
      exact failed (copy.trans (Op.mapError_runIn_of_error refused))
    | ok d =>
      obtain ⟨labels, hl⟩ := exists_labels hq
      have heard : ((w.emitAll es).object b.goal.object).subscribersOf b.goal.key =
          labels.map .watcher := by
        rw [show (w.emitAll es).object b.goal.object = _ from object]
        exact hl
      obtain ⟨v, fs, hv, wrote, changes⟩ := host.write_of_watched (p := b.goal)
        (h := h.keep [.object b.source, .object b.target]) (w := w.emitAll es) n
        (by rw [before.size]; exact World.lt_size_of_isAlive ht)
        ((before.converted b.goal a).trans hw) heard
      have after := World.Differs.emitAll_of_no_error (w := v) fun e he =>
        Event.not_isErrorRecord_of_isChange (changes e he)
      refine ⟨_, tell_of_ok (copy.trans (Op.mapError_runIn_eq_ok.2 hv)) name previous, ?_, ?_⟩
      · have all := (before.trans (.of_wrote wrote)).trans after
        rwa [before.slot] at all
      · exact (after.read b.goal List.not_mem_nil).trans wrote.read_self

end

namespace Host

/-- The bindings among some subscribers whose targets are alive when their turn comes to be told. -/
def told (host : Host) (write : Write) (h : Held) (name : String) (previous : Value) :
    List Subscriber → World → List Binding
  | [], _ => []
  | s :: r, w =>
    let rest := told host write h name previous r ((host.tell write h name previous s).runIn w).2
    match s with
    | .binding b => if w.isAlive h b.target then b :: rest else rest
    | .watcher _ => rest

variable {host : Host} {f : MappingResults} {h : Held} {b : Binding} {w u : World} {c : Value}
  {p : Place}

/-- What is asked of the subscribers of a place so that what becomes of one does not depend on the
others: the targets are other places than the source, from which no binding leads on, and the
mapping functions have known results. -/
structure Fans (host : Host) (f : MappingResults) (w : World) (p : Place)
    (l : List Subscriber) : Prop where
  origin : ∀ b, .binding b ∈ l → b.origin = p
  other : ∀ b, .binding b ∈ l → w.slot b.goal ≠ w.slot p
  distinct : ((l.filterMap Subscriber.binding?).map fun b => w.slot b.goal).Nodup
  sinks : ∀ b, .binding b ∈ l → w.bindingsAt b.goal = []
  computes : ∀ b, .binding b ∈ l → ∀ m, b.mapping = some m → host.Computes f m

namespace Fans

variable {s : Subscriber} {l : List Subscriber} {slots : List (ObjectId × (String ⊕ Nat))}
  {errors : List Event}

theorem tail (hl : Fans host f w p (s :: l)) (hu : w.Differs slots errors u) :
    Fans host f u p l where
  origin b hb := hl.origin b (List.mem_cons_of_mem s hb)
  other b hb := by
    rw [hu.slot, hu.slot]
    exact hl.other b (List.mem_cons_of_mem s hb)
  distinct := by
    simp only [hu.slot]
    have distinct := hl.distinct
    cases s with
    | watcher => exact distinct
    | binding b => exact (List.nodup_cons.1 distinct).2
  sinks b hb := by
    rw [World.bindingsAt_congr hu.subscribers]
    exact hl.sinks b (List.mem_cons_of_mem s hb)
  computes b hb := hl.computes b (List.mem_cons_of_mem s hb)

/-- The first binding has another target than those that come later. -/
theorem ne_of_mem (hl : Fans host f w p (.binding b :: l)) {d : Binding} (hd : .binding d ∈ l) :
    w.slot d.goal ≠ w.slot b.goal := by
  intro he
  have later : d ∈ l.filterMap Subscriber.binding? := List.mem_filterMap.2 ⟨_, hd, rfl⟩
  exact (List.nodup_cons.1 hl.distinct).1 (List.mem_map.2 ⟨d, later, he⟩)

end Fans

/-- The first subscriber is told that a place holds `c`. -/
theorem exists_tell_first (n : Nat) {s : Subscriber} {l : List Subscriber}
    (hl : Fans host f w p (s :: l)) (hp : .object p.object ∈ h.values)
    (ho : p.object.index < w.objects.size) (hc : w.read p = .ok c) (previous : Value) :
    ∃ u here, (host.tell (host.write (n + 1)) h p.key previous s).runIn w = (.ok (), u) ∧
      host.told (host.write (n + 1)) h p.key previous (s :: l) w =
        here ++ host.told (host.write (n + 1)) h p.key previous l u ∧
      w.Differs (here.map fun b => w.slot b.goal)
        (here.filterMap fun b => b.record? (b.outcome f w c)) u ∧
      ∀ b ∈ here, s = .binding b ∧ u.read b.goal = (b.outcome f w c).reading (w.read b.goal) := by
  cases s with
  | watcher label =>
    refine ⟨w.emit (.changed label p.key previous), [], rfl, rfl, ?_, List.forall_mem_nil _⟩
    exact .emitAll w [.changed label p.key previous]
  | binding b =>
    have member : Subscriber.binding b ∈ .binding b :: l := List.mem_cons_self
    have origin := hl.origin b member
    by_cases ht : w.isAlive h b.target = true
    · have hs : w.isAlive h b.source = true := by
        rw [show b.source = p.object from congrArg Place.object origin]
        exact World.isAlive_of_held hp ho
      obtain ⟨u, run, differs, reading⟩ := host.exists_tell n
        (hl.computes b member) hs ht (origin ▸ hc) (hl.sinks b member) p.key previous
      refine ⟨u, [b], run, ?_, ?_, fun d hd => ?_⟩
      · rw [told, run]
        exact if_pos ht
      · have one : [b].filterMap (fun b => b.record? (b.outcome f w c)) =
            (b.record? (b.outcome f w c)).toList := by
          rw [List.filterMap_cons]
          cases b.record? (b.outcome f w c) <;> rfl
        rw [one]
        exact differs
      · cases List.mem_singleton.1 hd
        exact ⟨rfl, reading⟩
    · have gone : ¬ (w.isAlive h b.source && w.isAlive h b.target) = true := fun ha =>
        ht (Bool.and_eq_true_iff.1 ha).2
      have run := tell_of_ok (copyAlong_runIn_of_gone host (host.write (n + 1)) gone) p.key previous
      refine ⟨w, [], run, ?_, .refl w, List.forall_mem_nil _⟩
      rw [told, run]
      exact if_neg ht

/-- Subscribers are told one after the other that a place holds `c`. -/
theorem exists_tell_all (n : Nat) {l : List Subscriber} (hl : Fans host f w p l)
    (hp : .object p.object ∈ h.values) (ho : p.object.index < w.objects.size)
    (hc : w.read p = .ok c) (previous : Value) :
    ∃ v told, (l.forM (host.tell (host.write (n + 1)) h p.key previous)).runIn w = (.ok (), v) ∧
      host.told (host.write (n + 1)) h p.key previous l w = told ∧
      w.Differs (told.map fun b => w.slot b.goal)
        (told.filterMap fun b => b.record? (b.outcome f w c)) v ∧
      ∀ b ∈ told, .binding b ∈ l ∧ v.read b.goal = (b.outcome f w c).reading (w.read b.goal) := by
  induction l generalizing w with
  | nil => exact ⟨w, [], rfl, rfl, .refl w, List.forall_mem_nil _⟩
  | cons s l ih =>
    obtain ⟨u, here, first, split, differs, reading⟩ := exists_tell_first n hl hp ho hc previous
    have other : w.slot p ∉ here.map fun b => w.slot b.goal := by
      intro hm
      obtain ⟨b, hb, he⟩ := List.mem_map.1 hm
      exact hl.other b ((reading b hb).1 ▸ List.mem_cons_self) he
    obtain ⟨v, later, rest, told, differs', reading'⟩ := ih (hl.tail differs)
      (by rw [differs.size]; exact ho) ((differs.read p other).trans hc)
    -- the targets that come later are not touched by the first binding, nor the other way round
    have apart : ∀ d ∈ later, ∀ b ∈ here, w.slot d.goal ≠ w.slot b.goal := by
      intro d hd b hb
      have hs := (reading b hb).1
      subst hs
      exact hl.ne_of_mem (reading' d hd).1
    have same : ∀ d ∈ later, w.slot d.goal ∉ here.map fun b => w.slot b.goal := by
      intro d hd hm
      obtain ⟨b, hb, he⟩ := List.mem_map.1 hm
      exact apart d hd b hb he.symm
    have outcome : ∀ d ∈ later, d.outcome f u c = d.outcome f w c :=
      fun d hd => Binding.outcome_of_differs differs (same d hd) f c
    refine ⟨v, here ++ later, ?_, split.trans (congrArg _ told), ?_, fun b hb => ?_⟩
    · rw [Op.forM_cons_runIn_of_ok first]
      exact rest
    · have all := differs.trans differs'
      have records : later.filterMap (fun d => d.record? (d.outcome f u c)) =
          later.filterMap fun d => d.record? (d.outcome f w c) :=
        List.filterMap_congr fun d hd => by rw [outcome d hd]
      simp only [differs.slot, records] at all
      rwa [List.map_append, List.filterMap_append]
    · rcases List.mem_append.1 hb with hb | hb
      · obtain ⟨hs, read⟩ := reading b hb
        refine ⟨hs ▸ List.mem_cons_self, ?_⟩
        rw [differs'.read, read]
        intro hm
        obtain ⟨d, hd, he⟩ := List.mem_map.1 hm
        rw [differs.slot, differs.slot] at he
        exact apart d hd b hb he
      · obtain ⟨hs, read⟩ := reading' b hb
        refine ⟨List.mem_cons_of_mem s hs, ?_⟩
        rw [read, outcome b hb, differs.read b.goal (same b hb)]

/-- A binding is told if its target is held. -/
theorem mem_told (n : Nat) {l : List Subscriber} (hl : Fans host f w p l)
    (hp : .object p.object ∈ h.values) (ho : p.object.index < w.objects.size)
    (hc : w.read p = .ok c) (previous : Value) (hb : .binding b ∈ l)
    (ht : b.target.index < w.objects.size) (hr : .object b.target ∈ w.rootValues h) :
    b ∈ host.told (host.write (n + 1)) h p.key previous l w := by
  induction l generalizing w with
  | nil => cases hb
  | cons s l ih =>
    rcases List.mem_cons.1 hb with rfl | later
    · rw [told, if_pos (World.isAlive_of_root hr ht)]
      exact List.mem_cons_self
    · obtain ⟨u, here, -, split, differs, reading⟩ := exists_tell_first n hl hp ho hc previous
      have other : w.slot p ∉ here.map fun b => w.slot b.goal := by
        intro hm
        obtain ⟨b, hb, he⟩ := List.mem_map.1 hm
        exact hl.other b ((reading b hb).1 ▸ List.mem_cons_self) he
      rw [split]
      refine List.mem_append_right _ (ih (hl.tail differs) ?_ ?_ later ?_ ?_)
      · rw [differs.size]
        exact ho
      · rw [differs.read p other, hc]
      · rw [differs.size]
        exact ht
      · unfold World.rootValues World.table at hr ⊢
        rwa [differs.tables]

/-- The bindings that are told are some of the subscribers, in their order. -/
theorem told_sublist (write : Write) (name : String) (previous : Value) (l : List Subscriber) :
    (host.told write h name previous l w).Sublist (l.filterMap Subscriber.binding?) := by
  induction l generalizing w with
  | nil => exact .slnil
  | cons s l ih =>
    cases s with
    | watcher => exact ih
    | binding b =>
      rw [told]
      split
      · exact ih.cons_cons b
      · exact ih.cons b

/-- A target from which no binding leads on is another place than the source. -/
theorem slot_ne_of_sinks {a previous : Value} {v : World}
    (hx : w.assign p.object p.key a = .ok ⟨v, some previous⟩)
    (sinks : ∀ b ∈ w.bindingsAt p, w.bindingsAt b.goal = []) :
    ∀ b ∈ w.bindingsAt p, w.slot b.goal ≠ w.slot p := by
  intro b hb he
  have circular := sinks b hb
  rw [World.eq_of_slot_eq hx he] at circular
  rw [circular] at hb
  cases hb

/-- The subscribers of a place once it has been written. -/
theorem Fans.of_wrote {v : World} (wrote : w.Wrote p c v)
    (origin : ∀ b ∈ w.bindingsAt p, b.origin = p)
    (other : ∀ b ∈ w.bindingsAt p, w.slot b.goal ≠ w.slot p)
    (distinct : ((w.bindingsAt p).map fun b => w.slot b.goal).Nodup)
    (sinks : ∀ b ∈ w.bindingsAt p, w.bindingsAt b.goal = [])
    (computes : ∀ b ∈ w.bindingsAt p, ∀ m, b.mapping = some m → host.Computes f m) :
    Fans host f v p ((w.object p.object).subscribersOf p.key) where
  origin b hb := origin b (World.mem_bindingsAt.2 hb)
  other b hb := by
    rw [wrote.slot, wrote.slot]
    exact other b (World.mem_bindingsAt.2 hb)
  distinct := by
    simp only [wrote.slot]
    exact distinct
  sinks b hb := by
    rw [World.bindingsAt_congr wrote.subscribers]
    exact sinks b (World.mem_bindingsAt.2 hb)
  computes b hb := computes b (World.mem_bindingsAt.2 hb)

/-- A write that is accepted and changes its place is carried out whatever becomes of the bindings
that are told. Each of them stores what it has to or leaves its target alone, and those that fail
are reported one by one. -/
theorem exists_setProperty_of_sinks {a previous : Value} {v : World}
    (ho : p.object.index < w.objects.size)
    (hx : w.assign p.object p.key a = .ok ⟨v, some previous⟩)
    (origin : ∀ b ∈ w.bindingsAt p, b.origin = p)
    (distinct : ((w.bindingsAt p).map fun b => w.slot b.goal).Nodup)
    (sinks : ∀ b ∈ w.bindingsAt p, w.bindingsAt b.goal = [])
    (computes : ∀ b ∈ w.bindingsAt p, ∀ m, b.mapping = some m → host.Computes f m)
    (hn : 1 < host.nesting) :
    let held := h.keep [.object p.object, a, previous]
    let told := host.told (host.write (host.nesting - 1)) held p.key previous
      ((w.object p.object).subscribersOf p.key) v
    ∃ c u, w.converted p a = .ok c ∧
      (host.setProperty h p.object p.key a).runIn w = (.ok (), u) ∧
      u.exhausted = w.exhausted ∧ u.read p = .ok c ∧
      told.Sublist (w.bindingsAt p) ∧
      (∀ b ∈ w.bindingsAt p, b.target.index < w.objects.size →
        .object b.target ∈ w.rootValues held → b ∈ told) ∧
      (∀ b ∈ told, u.read b.goal = (b.outcome f w c).reading (w.read b.goal)) ∧
      (∀ q, w.slot q ≠ w.slot p → (∀ b ∈ told, w.slot q ≠ w.slot b.goal) → u.read q = w.read q) ∧
      ∃ events, u.trace.toList = w.trace.toList ++ events ∧
        events.filter Event.isErrorRecord =
          told.filterMap fun b => b.record? (b.outcome f w c) := by
  intro held told
  obtain ⟨n, nesting⟩ : ∃ n, host.nesting = n + 2 := ⟨_, (Nat.sub_add_cancel hn).symm⟩
  obtain ⟨c, hc⟩ : ∃ c, w.converted p a = .ok c := by
    cases hc : w.converted p a with
    | ok c => exact ⟨c, rfl⟩
    | error e => cases hx.symm.trans (World.assign_of_not_converted hc)
  obtain ⟨x, hx', wrote⟩ := World.assign_of_converted ho hc
  obtain rfl : x = ⟨v, some previous⟩ := Except.ok.inj (hx'.symm.trans hx)
  have source := World.Differs.of_wrote wrote
  have other := slot_ne_of_sinks hx sinks
  have fans := Fans.of_wrote wrote origin other distinct sinks computes
  have hp : .object p.object ∈ held.values := List.mem_cons_self
  have size : p.object.index < v.objects.size := by
    rw [wrote.size]
    exact ho
  obtain ⟨u, l, run, hl, differs, reading⟩ :=
    exists_tell_all n fans hp size wrote.read_self previous
  have same : told = l := by
    change host.told (host.write (host.nesting - 1)) _ _ _ _ _ = l
    rw [nesting]
    exact hl
  have among : ∀ b ∈ l, b ∈ w.bindingsAt p := fun b hb => World.mem_bindingsAt.2 (reading b hb).1
  have outcome : ∀ b ∈ l, b.outcome f v c = b.outcome f w c := fun b hb =>
    Binding.outcome_of_differs source (by simpa using other b (among b hb)) f c
  have reached : w.slot p ∉ l.map fun b => v.slot b.goal := by
    intro hm
    obtain ⟨b, hb, he⟩ := List.mem_map.1 hm
    rw [wrote.slot] at he
    exact other b (among b hb) he
  have kept : u.read p = .ok c := by
    rw [differs.read p (by rwa [wrote.slot]), wrote.read_self]
  refine ⟨c, u, hc, ?run, differs.exhausted.trans wrote.exhausted, kept,
    told_sublist _ _ _ _, fun b hb size' root => ?alive, fun b hb => ?told, fun q hq ht => ?other,
    ?errors⟩
  case run =>
    unfold setProperty
    rw [nesting]
    unfold Op.runIn write writeThen
    rw [hx]
    unfold publish
    rw [← wrote.subscribersOf p.object p.key] at run
    exact run
  case alive =>
    rw [same, ← hl]
    refine mem_told n fans hp size wrote.read_self previous (World.mem_bindingsAt.1 hb) ?_ ?_
    · rw [wrote.size]
      exact size'
    · unfold World.rootValues World.table at root ⊢
      rwa [wrote.tables]
  case told =>
    rw [same] at hb
    rw [(reading b hb).2, outcome b hb, wrote.read_of_ne _ (other b (among b hb))]
  case other =>
    rw [differs.read q, wrote.read_of_ne q hq]
    intro hm
    obtain ⟨b, hb, he⟩ := List.mem_map.1 hm
    rw [wrote.slot, wrote.slot] at he
    exact ht b (same ▸ hb) he.symm
  case errors =>
    obtain ⟨events, trace, errors⟩ := differs.trace
    refine ⟨events, by rw [trace, wrote.trace], ?_⟩
    rw [errors, same]
    exact List.filterMap_congr fun b hb => by rw [outcome b hb]

/-- Twice a number. -/
def doubled : Value → Except ScriptError Value
  | .int i => .ok (.int (2 * i))
  | _ => .error (.failed "not a number")

/-- A host whose engines have one function, which doubles numbers. -/
def doubling : Host where
  engine _ := {
    language := "none"
    functions := .ofList [("double", fun _ vs => .ofExcept (doubled (vs.headD .null)))]
    evaluator := none }
  hook _ _ _ _ _ := pure ()
  nesting := 2

/-- What the functions of that host make of a value. -/
def doublingResults : MappingResults := fun m _ v =>
  if m.function = "double" then doubled v else .error (.noSuchFunction m.function)

theorem doubling_computes (m : Mapping) : doubling.Computes doublingResults m := by
  intro h v w
  refine ⟨[], List.forall_mem_nil _, ?_⟩
  obtain ⟨e, function⟩ := m
  unfold Engine.invoke doublingResults
  by_cases hm : function = "double"
  · subst hm
    rfl
  · have absent : (doubling.engine e).functions.get? function = none :=
      (Entries.get?_insert_of_ne _ _ hm).trans (Entries.get?_empty _)
    simp only [absent, hm, if_false]
    rfl

/-- A number is stored, doubled and stored, refused, lost in a mapping function that is not there,
and found to be there already. -/
theorem exists_setProperty_of_sinks_five :
    let bean (t : ValueType) (v : Value) (subscribers : List (String × Subscriber)) : Object :=
      ⟨.bean ⟨"A", none, none, .ofList [("x", .writable t v)]⟩, subscribers⟩
    let dictionary (entries : List (String × Value)) : Object :=
      ⟨.dictionary ⟨"A", .ofList entries, none⟩, []⟩
    let binding (target : Nat) (k : String) (function : Option String) : Binding :=
      ⟨⟨0⟩, "x", ⟨target⟩, k, function.map fun name => ⟨⟨0⟩, name⟩⟩
    let bs : List Binding := [binding 1 "x" none, binding 1 "y" (some "double"), binding 2 "x" none,
      binding 3 "x" (some "halve"), binding 4 "x" none]
    let w : World := {
      World.empty with
      objects := #[
        bean .int (.int 1) (("x", .watcher "x") :: bs.map fun b => ("x", .binding b)),
        dictionary [("x", .int 0)], bean .bool (.bool true) [], bean .any (.int 0) [],
        dictionary [("x", .int 7)]] }
    let held : Held := ⟨(List.range 5).map fun i => .object ⟨i⟩, []⟩
    ∃ u, (doubling.setProperty held ⟨0⟩ "x" (.string "7")).runIn w = (.ok (), u) ∧
      u.read ⟨⟨0⟩, "x"⟩ = .ok (.int 7) ∧
      bs.map (fun b => u.read b.goal) =
        [.ok (.int 7), .ok (.int 14), .ok (.bool true), .ok (.int 0), .ok (.int 7)] ∧
      (u.trace.toList.filter Event.isErrorRecord).length = 2 := by
  intro bean dictionary binding bs w held
  let p : Place := ⟨⟨0⟩, "x"⟩
  let v : World := {
    w with
    objects := w.objects.set! 0
      (bean .int (.int 7) (("x", .watcher "x") :: bs.map fun b => ("x", .binding b))) }
  have hx : w.assign p.object p.key (.string "7") = .ok ⟨v, some (.int 1)⟩ := by rfl
  have bindings : w.bindingsAt p = bs := by decide +kernel
  have told : doubling.told (doubling.write (doubling.nesting - 1))
      (held.keep [.object p.object, .string "7", .int 1]) p.key (.int 1)
      ((w.object p.object).subscribersOf p.key) v = bs := by decide +kernel
  obtain ⟨c, u, hc, run, -, reads, -, -, reading, -, events, trace, errors⟩ :=
    exists_setProperty_of_sinks (f := doublingResults) (h := held) (by decide) hx
      (by rw [bindings]; decide +kernel) (by rw [bindings]; decide +kernel)
      (by rw [bindings]; decide +kernel) (fun _ _ m _ => doubling_computes m) (by decide)
  obtain rfl : c = .int 7 := Except.ok.inj (hc.symm.trans (by rfl))
  rw [told] at reading errors
  have readings : bs.map (fun b => u.read b.goal) =
      bs.map fun b => (b.outcome doublingResults w (.int 7)).reading (w.read b.goal) :=
    List.map_congr_left reading
  refine ⟨u, run, reads, readings.trans (by rfl), ?_⟩
  rw [trace, List.filter_append, errors]
  decide +kernel

/-- A target that holds a string in place of a number keeps it when the same string is passed on,
although it would take the number. -/
theorem kept_unconverted :
    let b : Binding := ⟨⟨0⟩, "x", ⟨1⟩, "x", none⟩
    let w : World := {
      World.empty with
      objects := #[
        ⟨.dictionary ⟨"A", .ofList [("x", .string "none")], none⟩, [("x", .binding b)]⟩,
        ⟨.bean ⟨"A", none, none, .ofList [("x", .writable .int (.string "5"))]⟩, []⟩] }
    let held : Held := ⟨[.object ⟨0⟩, .object ⟨1⟩], []⟩
    let r := ((plain "none").setProperty held ⟨0⟩ "x" (.string "5")).runIn w
    w.bindingsAt b.origin = [b] ∧ w.bindingsAt b.goal = [] ∧
      w.read b.origin = .ok (.string "none") ∧ w.converted b.goal (.string "5") = .ok (.int 5) ∧
      r.1 = .ok () ∧ r.2.read b.origin = .ok (.string "5") ∧
      r.2.read b.goal = .ok (.string "5") := by
  intro b w held r
  exact ⟨by decide +kernel, by decide +kernel, by decide +kernel, by decide +kernel,
    by decide +kernel, by decide +kernel, by decide +kernel⟩

end Host

end Bxml
