import Bxml.Proofs.World.Slots
import Bxml.Proofs.Zones.Opening

/-!
# Hidden objects

Some objects are hidden if nothing else leads to them: no property and no item of another object, no
id and no binding.  Whoever is not told of them can neither change them nor tell somebody else, so
they stay as they are, and hidden.

* `World.Hides` says that some objects are hidden in a world, and `World.Spares` what becomes of
  them in a later one.
* There is one lemma for each change of a world, under the condition that the values it is about
  avoid the hidden objects; `modify_hidden` lets hidden objects lead to one another.
-/

namespace Bxml

/-- Which objects are to be kept from all others. -/
abbrev Hidden := ObjectId → Prop

section

variable (H : Hidden)

/-- Whether a value is no hidden object. -/
def Value.Avoids (v : Value) : Prop := ∀ o, v = .object o → ¬ H o

/-- Whether a binding connects no hidden object. -/
structure Binding.Avoids (b : Binding) : Prop where
  source : ¬ H b.source
  target : ¬ H b.target

/-- Whether neither an object nor its subscribers lead to a hidden object. -/
structure Object.Avoids (x : Object) : Prop where
  content : x.content.All (Value.Avoids H)
  subscribers : ∀ {name b}, (name, Subscriber.binding b) ∈ x.subscribers → b.Avoids H

/-- Whether nothing in a world leads to hidden objects, apart from these themselves. -/
structure World.Hides (w : World) : Prop where
  exist : ∀ o, H o → o.index < w.objects.size
  object : ∀ o, ¬ H o → (w.object o).Avoids H
  table : ∀ t, (w.table t).All (Value.Avoids H)

/-- Whether hidden objects are still as they were in another world, and still hidden. -/
structure World.Spares (w u : World) : Prop where
  hides : u.Hides H
  same : ∀ o, H o → u.object o = w.object o

end

variable {H : Hidden}

/-! ## Values -/

namespace Value

theorem avoids_object {o : ObjectId} : (Value.object o).Avoids H ↔ ¬ H o := by
  constructor
  · exact fun h => h o rfl
  · rintro h _ ⟨⟩
    exact h

/-- A value that is no object is no hidden one. -/
theorem avoids_of_object? {v : Value} (h : v.object? = none) : v.Avoids H := by
  rintro o rfl
  cases h

end Value

/-- A text is never read as an object. -/
theorem ValueType.object?_of_read? {t : ValueType} {s : String} {v : Value} (h : t.read? s = some v) :
    v.object? = none := by
  unfold read? at h
  cases t with
  | any | string =>
    cases h
    rfl
  | bool =>
    simp only at h
    split at h
    · cases h
      rfl
    · split at h <;> cases h
      rfl
  | int | float | url =>
    obtain ⟨_, _, rfl⟩ := Option.map_eq_some_iff.1 h
    rfl
  | object => cases h

/-- An object is stored as it is. -/
theorem ValueType.eq_of_stored?_object {t : ValueType} {v : Value} {o : ObjectId}
    (h : t.stored? v = some (.object o)) : v = .object o := by
  cases v with
  | string s =>
    rw [stored?_eq_read?] at h
    cases object?_of_read? h
  | _ =>
    unfold stored? at h
    cases t <;> first | exact Option.some.inj h | cases h

theorem Value.Avoids.coerce {v c : Value} (h : v.Avoids H) {typeName : ObjectId → String}
    {t : ValueType} {name : String} (hc : t.coerce typeName name v = .ok c) : c.Avoids H := by
  rintro o rfl
  exact h o (ValueType.eq_of_stored?_object (ValueType.coerce_eq_ok.1 hc))

/-! ## Objects -/

namespace Object

variable {x : Object}

theorem Avoids.withContent (h : x.Avoids H) {c : Content} (hc : c.All (Value.Avoids H)) :
    ({ x with content := c } : Object).Avoids H :=
  ⟨hc, h.subscribers⟩

/-- What can be read from an object that leads to no hidden one is none. -/
theorem Avoids.getProperty (h : x.Avoids H) {name : String} {v : Value}
    (hv : x.getProperty name = .ok v) : v.Avoids H := by
  obtain ⟨c, l⟩ := x
  have content := h.content
  unfold Object.getProperty at hv
  dsimp only at hv content
  cases content with
  | bean hb =>
    dsimp only at hv
    split at hv
    · next hs =>
      cases hv
      obtain ⟨s, hs, hv⟩ := Option.bind_eq_some_iff.1 hs
      exact hb name s hs v hv
    · cases hv
  | @dictionary d hd =>
    cases hv
    cases he : d.entries.get? name with
    | none => exact Value.avoids_of_object? rfl
    | some v => exact hd name v he
  | list hl =>
    dsimp only at hv
    split at hv
    · cases hv
      exact Value.avoids_of_object? rfl
    · split at hv
      · next hi =>
        cases hv
        obtain ⟨i, -, hi⟩ := Option.bind_eq_some_iff.1 hi
        exact hl v (List.mem_of_getElem? hi)
      · cases hv

end Object

/-! ## Changes -/

namespace World

variable {w u : World} {o : ObjectId} {v : Value} {name : String}

namespace Hides

variable (hw : w.Hides H)

include hw

/-- The trace and the mark of exhaustion lead to nothing. -/
theorem of_eq (ho : u.objects = w.objects) (ht : u.tables = w.tables) : w.Spares H u where
  hides := by
    refine ⟨fun o h => ?_, fun o h => ?_, fun t => ?_⟩
    · rw [ho]
      exact hw.exist o h
    · unfold World.object
      rw [ho]
      exact hw.object o h
    · unfold World.table
      rw [ht]
      exact hw.table t
  same o _ := by
    unfold World.object
    rw [ho]

theorem emit (e : Event) : w.Spares H (w.emit e) := hw.of_eq rfl rfl

theorem modify (ho : ¬ H o) {f : Object → Object} (hf : (f (w.object o)).Avoids H) :
    w.Spares H (w.modify o f) where
  hides := by
    refine ⟨fun p hp => ?_, fun p hp => ?_, hw.table⟩
    · simpa only [World.modify, Array.size_modify] using hw.exist p hp
    · rw [object_modify_eq_ite]
      split
      · exact hf
      · exact hw.object p hp
  same p hp := by
    rw [object_modify_eq_ite, if_neg]
    rintro ⟨rfl, -⟩
    exact ho hp

/-- What a hidden object leads to does not matter. -/
theorem modify_hidden (ho : H o) (f : Object → Object) : (w.modify o f).Hides H where
  exist p hp := by simpa only [World.modify, Array.size_modify] using hw.exist p hp
  object p hp := by
    rw [object_modify_eq_ite, if_neg]
    · exact hw.object p hp
    · rintro ⟨rfl, -⟩
      exact hp ho
  table := hw.table

/-- An object that is made now is not hidden. -/
theorem alloc {c : Content} (hc : c.All (Value.Avoids H)) :
    ¬ H (w.alloc ⟨c, []⟩).1 ∧ w.Spares H (w.alloc ⟨c, []⟩).2 := by
  have old (p : ObjectId) (hp : H p) : p.index ≠ w.objects.size := Nat.ne_of_lt (hw.exist p hp)
  refine ⟨fun h => old _ h rfl, ⟨fun p hp => ?_, fun p hp => ?_, hw.table⟩, fun p hp => ?_⟩
  · simpa only [World.alloc, Array.size_push] using Nat.lt_succ_of_lt (hw.exist p hp)
  · rw [object_alloc]
    split
    · refine ⟨hc, ?_⟩
      rintro _ _ ⟨⟩
    · exact hw.object p hp
  · rw [object_alloc, if_neg (old p hp)]

theorem allocTable : w.Spares H (w.allocTable .empty).2 where
  hides := by
    refine ⟨hw.exist, hw.object, fun t => ?_⟩
    rw [table_allocTable]
    split
    · exact .empty
    · exact hw.table t
  same _ _ := rfl

theorem append (ho : ¬ H o) (hv : v.Avoids H) : w.Spares H (w.append o v) := by
  refine hw.modify ho ?_
  have state := hw.object o ho
  have content := state.content
  split
  · next items hc =>
    rw [hc] at content
    cases content with
    | list hl =>
      refine state.withContent (.list fun a ha => ?_)
      rcases List.mem_append.1 ha with ha | ha
      · exact hl a ha
      · rw [List.mem_singleton.1 ha]
        exact hv
  · exact state

theorem subscribe (ho : ¬ H o) {b : Binding} (hb : b.Avoids H) :
    w.Spares H (w.subscribe o name (.binding b)) := by
  refine hw.modify ho ⟨(hw.object o ho).content, fun hp => ?_⟩
  rcases List.mem_append.1 hp with hp | hp
  · exact (hw.object o ho).subscribers hp
  · cases List.mem_singleton.1 hp
    exact hb

theorem addListener (ho : ¬ H o) (x : Listener) : w.Spares H (w.addListener o name x) := by
  refine hw.modify ho ?_
  have state := hw.object o ho
  have content := state.content
  dsimp only
  split
  · next b hc =>
    rw [hc] at content
    cases content with
    | bean hb =>
      split
      · refine state.withContent (.bean (hb.insert name ?_))
        rintro _ ⟨⟩
      · exact state
  · exact state

theorem assign (ho : ¬ H o) (hv : v.Avoids H) {x : Written} (h : w.assign o name v = .ok x) :
    w.Spares H x.world := by
  have state := hw.object o ho
  have content := state.content
  unfold World.assign at h
  generalize hc : (w.object o).content = c at h content
  cases content with
  | bean hb =>
    dsimp only at h
    split at h
    · cases h
    · next t _ _ =>
      cases hcoerce : t.coerce w.typeName name v with
      | error e =>
        rw [hcoerce] at h
        cases h
      | ok c =>
        rw [hcoerce] at h
        cases h
        refine hw.modify ho (state.withContent (.bean (hb.insert name ?_)))
        rintro _ ⟨⟩
        exact hv.coerce hcoerce
    · cases h
  | @dictionary d hd =>
    cases h
    exact hw.modify ho (state.withContent (.dictionary (hd.insert name hv)))
  | list hl =>
    dsimp only at h
    split at h
    · cases h
      refine hw.modify ho (state.withContent (.list fun a ha => ?_))
      rcases List.mem_or_eq_of_mem_set ha with ha | rfl
      · exact hl a ha
      · exact hv
    · cases h

/-! ## Tables -/

theorem putId (hv : v.Avoids H) {t : TableId} {id : String} (h : w.putId t id v = .ok u) :
    w.Spares H u := by
  obtain ⟨-, rfl⟩ := putId_eq h
  refine ⟨⟨hw.exist, hw.object, fun s => ?_⟩, fun _ _ => rfl⟩
  rw [table_modify]
  split
  · exact (hw.table t).insert id hv
  · exact hw.table s

theorem follow {segments : List String} {a : Value} (hv : v.Avoids H)
    (h : w.follow v segments = .ok (some a)) : a.Avoids H := by
  induction segments generalizing v with
  | nil =>
    rw [World.follow] at h
    cases h
    exact hv
  | cons s r ih =>
    cases v with
    | object o =>
      rw [World.follow] at h
      split at h
      · split at h
        · next hp => exact ih ((hw.object o (hv o rfl)).getProperty hp) h
        · cases h
      · cases h
    | _ => cases h

theorem resolve {t : TableId} {segments : List String} {a : Value}
    (h : w.resolve t segments = .ok a) : a.Avoids H := by
  unfold World.resolve World.resolveIn at h
  split at h
  · cases h
  · split at h
    · cases h
    · next hi =>
      split at h
      · next hf =>
        cases h
        exact hw.follow (hw.table t _ _ hi) hf
      · cases h
      · cases h

end Hides

end World

end Bxml
