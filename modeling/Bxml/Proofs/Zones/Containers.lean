import Bxml.Proofs.Zones.Closing
import Bxml.Proofs.Zones.Hidden

/-!
# Containers

An object that takes nested content collects it in a list of its own.  Two zones matter for such a
list.  While the content of the object is loaded nothing but the object leads to the list; in this zone
no operation can come across it.  When the object is handed to its parent others may learn of the
list, but still nobody is bound to it; in this zone every operation on other objects leaves it alone.

* `Container` is an object with its list, and `Holds` says that the list has certain items and that
  nothing else leads there.  `Keeps` says less: that no binding writes to the list.  `Holds.keeps`
  leads from one to the other.
* `inside` and `outside` are the two zones, and `IsRespected` what they ask of engines and bundles.
-/

namespace Bxml

/-- An object that takes nested content, and the list that it has as its default property. -/
structure Container where
  object : ObjectId
  /-- The default property. -/
  property : String
  list : ObjectId

namespace Container

variable (C : Container)

/-- The object and its list are hidden while the content of the object is loaded. -/
def hidden : Hidden := fun o => o = C.object ∨ o = C.list

/-- Whether an object that nobody is told of has the list as its default property, which cannot be
written, and is in none of its own properties. -/
structure Suits (x : Object) : Prop where
  subscribers : x.subscribers = []
  bean : ∃ b, x.content = .bean b ∧ b.defaultProperty = some C.property ∧
    b.slots.get? C.property = some (.readOnly (.object C.list)) ∧
    b.slots.All (Slot.All (· ≠ .object C.object))

/-- Whether a container has certain items in a world, and nothing else leads to it or its list. -/
structure Holds (items : List Value) (w : World) : Prop where
  hides : w.Hides C.hidden
  object : C.Suits (w.object C.object)
  list : (w.object C.list).content = .list items

/-- Whether a list has certain items in a world, and no binding writes to it. -/
structure Keeps (items : List Value) (w : World) : Prop where
  exist : C.list.index < w.objects.size
  list : (w.object C.list).content = .list items
  target : ∀ {o name b}, o ≠ C.list → (name, Subscriber.binding b) ∈ (w.object o).subscribers →
    b.target ≠ C.list

variable {C} {items : List Value} {w u : World} {o : ObjectId} {v : Value} {name : String}

theorem hidden_object : C.hidden C.object := .inl rfl

theorem hidden_list : C.hidden C.list := .inr rfl

theorem ne_list_of_not_hidden (ho : ¬ C.hidden o) : o ≠ C.list := fun h => ho (.inr h)

/-! ## The object -/

namespace Suits

variable {x : Object}

theorem defaultProperty (h : C.Suits x) : x.defaultProperty = some C.property := by
  obtain ⟨b, hc, hd, -⟩ := h.bean
  unfold Object.defaultProperty
  rw [hc]
  exact hd

/-- The default property leads to the list. -/
theorem getProperty_default (h : C.Suits x) :
    x.getProperty C.property = .ok (.object C.list) := by
  obtain ⟨b, hc, -, hs, -⟩ := h.bean
  unfold Object.getProperty
  rw [hc]
  dsimp only
  rw [hs]
  rfl

/-- No property of the object leads back to it. -/
theorem ne_object (h : C.Suits x) (hv : x.getProperty name = .ok v) : v ≠ .object C.object := by
  obtain ⟨b, hc, -, -, hs⟩ := h.bean
  unfold Object.getProperty at hv
  rw [hc] at hv
  dsimp only at hv
  split at hv
  · next hb =>
    cases hv
    obtain ⟨s, hg, hv⟩ := Option.bind_eq_some_iff.1 hb
    exact hs name s hg v hv
  · cases hv

/-- The object keeps its list when another property is written. -/
theorem withSlot (h : C.Suits x) {b : Bean} (hb : x.content = .bean b) {s r : Slot}
    (hs : b.slots.get? name = some s) (hn : ∀ a, s ≠ .readOnly a)
    (hr : r.All (· ≠ .object C.object)) :
    C.Suits { x with content := .bean { b with slots := b.slots.insert name r } } := by
  obtain ⟨b', hc, hd, hp, all⟩ := h.bean
  obtain rfl : b = b' := Content.bean.inj (hb.symm.trans hc)
  refine ⟨h.subscribers, _, rfl, hd, ?_, all.insert name hr⟩
  rw [Entries.get?_insert_of_ne _ _ ?_]
  · exact hp
  · rintro rfl
    rw [hp] at hs
    exact hn _ (Option.some.inj hs).symm

end Suits

/-! ## While the content is loaded -/

namespace Holds

variable (h : C.Holds items w)

include h

theorem object_ne_list : C.object ≠ C.list := by
  intro e
  obtain ⟨b, hc, -⟩ := h.object.bean
  rw [e, h.list] at hc
  cases hc

theorem of_spares (hs : w.Spares C.hidden u) : C.Holds items u where
  hides := hs.hides
  object := by
    rw [hs.same _ hidden_object]
    exact h.object
  list := by
    rw [hs.same _ hidden_list]
    exact h.list

/-- The object may be changed as long as it keeps its list. -/
theorem modify_object {f : Object → Object} (hf : C.Suits (f (w.object C.object))) :
    C.Holds items (w.modify C.object f) where
  hides := h.hides.modify_hidden hidden_object f
  object := by
    rw [World.object_modify_eq_ite, if_pos ⟨rfl, h.hides.exist _ hidden_object⟩]
    exact hf
  list := by
    rw [World.object_modify_eq_ite, if_neg fun e => h.object_ne_list e.1.symm]
    exact h.list

/-- What is appended to the list is its last item. -/
theorem append_list (v : Value) : C.Holds (items ++ [v]) (w.append C.list v) where
  hides := h.hides.modify_hidden hidden_list _
  object := by
    unfold World.append
    rw [World.object_modify_eq_ite, if_neg fun e => h.object_ne_list e.1]
    exact h.object
  list := by
    unfold World.append
    rw [World.object_modify_eq_ite, if_pos ⟨rfl, h.hides.exist _ hidden_list⟩, h.list]

theorem assign (ho : o ≠ C.list) (hv : v.Avoids C.hidden) {x : World.Written}
    (hx : w.assign o name v = .ok x) : C.Holds items x.world := by
  by_cases hh : C.hidden o
  · obtain rfl : o = C.object := hh.resolve_right ho
    obtain ⟨b, hc, -⟩ := h.object.bean
    unfold World.assign at hx
    rw [hc] at hx
    dsimp only at hx
    split at hx
    · cases hx
    · next t _ hs =>
      cases hcoerce : t.coerce w.typeName name v with
      | error e =>
        rw [hcoerce] at hx
        cases hx
      | ok a =>
        rw [hcoerce] at hx
        cases hx
        refine h.modify_object (h.object.withSlot hc hs nofun ?_)
        rintro _ ⟨⟩ e
        exact hv.coerce hcoerce _ e hidden_object
    · cases hx
  · exact h.of_spares (h.hides.assign hh hv hx)

theorem append (ho : o ≠ C.list) (hv : v.Avoids C.hidden) : C.Holds items (w.append o v) := by
  by_cases hh : C.hidden o
  · obtain rfl : o = C.object := hh.resolve_right ho
    obtain ⟨b, hc, -⟩ := h.object.bean
    refine h.modify_object ?_
    rw [hc]
    exact h.object
  · exact h.of_spares (h.hides.append hh hv)

theorem addListener (ho : o ≠ C.list) (x : Listener) : C.Holds items (w.addListener o name x) := by
  by_cases hh : C.hidden o
  · obtain rfl : o = C.object := hh.resolve_right ho
    obtain ⟨b, hc, -⟩ := h.object.bean
    refine h.modify_object ?_
    dsimp only
    split
    · next b' hb' =>
      split
      · next hs => exact h.object.withSlot hb' hs (by rintro _ ⟨⟩) (by rintro _ ⟨⟩)
      · exact h.object
    · exact h.object
  · exact h.of_spares (h.hides.addListener hh x)

end Holds

variable (C items)

/-- While the content of an object is loaded anything but its list may be changed, and neither the
object nor the list is passed around. -/
def inside : Zone where
  world := C.Holds items
  object o := o ≠ C.list
  value := Value.Avoids C.hidden
  binding := Binding.Avoids C.hidden
  scalar := Value.avoids_of_object?
  emit h e := h.of_spares (h.hides.emit e)
  exhaust h := h.of_spares (h.hides.of_eq rfl rfl)
  alloc h _ hc :=
    have made := h.hides.alloc hc
    ⟨h.of_spares made.2, ne_list_of_not_hidden made.1, Value.avoids_object.2 made.1⟩
  allocTable h := h.of_spares h.hides.allocTable
  assign h _ _ ho hv _ _ hx := h.assign ho hv hx
  append h _ _ ho hv := h.append ho hv
  addListener h _ ho _ x := h.addListener ho x
  subscribe h _ hb := h.of_spares (h.hides.subscribe hb.source hb)
  subscribers := by
    intro w h o ho name b hb
    by_cases hh : C.hidden o
    · obtain rfl : o = C.object := hh.resolve_right ho
      rw [h.object.subscribers] at hb
      cases hb
    · exact (h.hides.object o hh).subscribers hb
  target hb := ne_list_of_not_hidden hb.target
  source h _ hb _ _ hv := (h.hides.object _ hb.source).getProperty hv
  resolve h _ _ _ hv := h.hides.resolve hv
  putId h _ hv _ _ _ hu := h.of_spares (h.hides.putId hv hu)

theorem isSealed_inside : (C.inside items).IsSealed where
  object ho := ne_list_of_not_hidden (Value.avoids_object.1 ho)
  binding hs ht := ⟨Value.avoids_object.1 hs, Value.avoids_object.1 ht⟩
  property h _ ho _ _ hv := (Holds.hides h |>.object _ (Value.avoids_object.1 ho)).getProperty hv

variable {C items}

/-! ## When the object is handed to its parent -/

/-- A list to which nothing leads is written by no binding. -/
theorem Holds.keeps (h : C.Holds items w) : C.Keeps items w where
  exist := h.hides.exist _ hidden_list
  list := h.list
  target {o name b} ho hb := by
    by_cases hh : C.hidden o
    · obtain rfl : o = C.object := hh.resolve_right ho
      rw [h.object.subscribers] at hb
      cases hb
    · exact ne_list_of_not_hidden ((h.hides.object o hh).subscribers hb).target

namespace Keeps

variable (h : C.Keeps items w)

include h

/-- Changes of another object and its subscribers, none of which writes to the list. -/
theorem modify (ho : o ≠ C.list) {f : Object → Object}
    (hf : ∀ {name b}, (name, Subscriber.binding b) ∈ (f (w.object o)).subscribers →
      b.target ≠ C.list) : C.Keeps items (w.modify o f) where
  exist := by simpa only [World.modify, Array.size_modify] using h.exist
  list := by
    rw [World.object_modify_eq_ite, if_neg fun e => ho e.1.symm]
    exact h.list
  target {p name b} hp hb := by
    rw [World.object_modify_eq_ite] at hb
    split at hb
    · exact hf hb
    · exact h.target hp hb

theorem of_eq (ho : u.objects = w.objects) : C.Keeps items u where
  exist := by
    rw [ho]
    exact h.exist
  list := by
    unfold World.object
    rw [ho]
    exact h.list
  target {o name b} hn hb := by
    unfold World.object at hb
    rw [ho] at hb
    exact h.target hn hb

theorem alloc (c : Content) : C.Keeps items (w.alloc ⟨c, []⟩).2 where
  exist := by simpa only [World.alloc, Array.size_push] using Nat.lt_succ_of_lt h.exist
  list := by
    rw [World.object_alloc, if_neg (Nat.ne_of_lt h.exist)]
    exact h.list
  target {o name b} hn hb := by
    rw [World.object_alloc] at hb
    split at hb
    · cases hb
    · exact h.target hn hb

theorem assign (ho : o ≠ C.list) {x : World.Written} (hx : w.assign o name v = .ok x) :
    C.Keeps items x.world := by
  obtain ⟨c, hc⟩ := World.exists_content_of_assign hx
  rw [hc]
  exact h.modify ho fun hb => h.target ho hb

theorem append (ho : o ≠ C.list) (v : Value) : C.Keeps items (w.append o v) := by
  refine h.modify ho fun hb => ?_
  split at hb
  · exact h.target ho hb
  · exact h.target ho hb

theorem addListener (ho : o ≠ C.list) (x : Listener) :
    C.Keeps items (w.addListener o name x) := by
  refine h.modify ho fun {k b} hb => ?_
  have old : (k, Subscriber.binding b) ∈ (w.object o).subscribers := by
    revert hb
    split
    · split <;> exact id
    · exact id
  exact h.target ho old

theorem subscribe {b : Binding} (hb : b.target ≠ C.list) :
    C.Keeps items (w.subscribe b.source name (.binding b)) := by
  by_cases ho : b.source = C.list
  · refine ⟨?_, ?_, fun {o k b'} hn hb' => ?_⟩
    · simpa only [World.subscribe, World.modify, Array.size_modify] using h.exist
    · rw [ho, World.content_subscribe h.exist]
      exact h.list
    · rw [World.subscribe, World.object_modify_eq_ite, if_neg fun e => hn (e.1.trans ho)] at hb'
      exact h.target hn hb'
  · refine h.modify ho fun {k b'} hb' => ?_
    rcases List.mem_append.1 hb' with hb' | hb'
    · exact h.target ho hb'
    · cases List.mem_singleton.1 hb'
      exact hb

end Keeps

variable (C items)

/-- When an object has been handed to its parent anything but its list may be changed, and everything
may be passed around. -/
def outside : Zone where
  world := C.Keeps items
  object o := o ≠ C.list
  value _ := True
  binding b := b.target ≠ C.list
  scalar _ := trivial
  emit h _ := h.of_eq rfl
  exhaust h := h.of_eq rfl
  alloc h c _ := ⟨h.alloc c, fun e => Nat.ne_of_gt h.exist (congrArg ObjectId.index e), trivial⟩
  allocTable h := h.of_eq rfl
  assign h _ _ ho _ _ _ hx := h.assign ho hx
  append h _ v ho _ := h.append ho v
  addListener h _ ho _ x := h.addListener ho x
  subscribe h _ hb := h.subscribe hb
  subscribers h _ ho _ _ hb := h.target ho hb
  target := id
  source _ _ _ _ _ _ := trivial
  resolve _ _ _ _ _ := trivial
  putId h _ _ _ _ _ hu := h.of_eq (World.objects_putId hu)

/-- Whether what is outside of a load leaves the list of a container alone: as long as nothing leads to
the container it does not come across it, an attached property of the container or of the list does
not change the list, and nothing does that when the container has been handed to its parent. -/
structure IsRespected (l : Loader) : Prop where
  inside (items : List Value) : l.StaysIn (C.inside items)
  attach (h : Held) (owner property : String) {v : Value} {items : List Value} {w : World} :
    v.Avoids C.hidden → C.Holds items w →
      C.Holds items ((l.factory.attach h owner property C.list v).runIn w).2
  outside (items : List Value) : l.SetsIn (C.outside items)

end Container

end Bxml
