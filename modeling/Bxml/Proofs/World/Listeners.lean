import Bxml.Proofs.Load.Enduring
import Bxml.Proofs.Twins.Changes
import Bxml.Proofs.World.Ids

/-!
# Listener lists last

A property that a type declares for listeners cannot be written, so that its list stays behind it
for as long as the object exists, whatever is done to the world.

`Lists` is such a property, `KeepsListeners` the relation between a world and a later one, and
`listeners?_assign` the reason for it.
-/

namespace Bxml

namespace World

variable {w v : World} {o : ObjectId}

/-- Whether the property of an object with the given name has a list of listeners. -/
def Lists (w : World) (o : ObjectId) (name : String) : Prop :=
  ((w.object o).listeners? name).isSome = true

/-- Whether every list of listeners is there still. -/
def KeepsListeners (w v : World) : Prop := ∀ o name, w.Lists o name → v.Lists o name

theorem keepsListeners_of_eq (h : v.objects = w.objects) : KeepsListeners w v := by
  intro o name hl
  unfold Lists object at hl ⊢
  rwa [h]

theorem lt_size_of_lists {name : String} (h : w.Lists o name) : o.index < w.objects.size := by
  by_contra hi
  unfold Lists object at h
  rw [Array.getD, dif_neg hi] at h
  cases h

theorem modify_of_size_le {f : Object → Object} (h : w.objects.size ≤ o.index) :
    w.modify o f = w := by
  have same : w.objects.modify o.index f = w.objects := by
    refine Array.ext_getElem? fun i => ?_
    rw [Array.getElem?_modify]
    split
    · next hi =>
      subst hi
      rw [Array.getElem?_eq_none h]
      rfl
    · rfl
  unfold modify
  rw [same]

/-- A change of an object that leaves it its lists leaves all of them. -/
theorem keepsListeners_modify {f : Object → Object}
    (hf : ∀ name, ((w.object o).listeners? name).isSome = true →
      ((f (w.object o)).listeners? name).isSome = true) : KeepsListeners w (w.modify o f) := by
  intro o' name hl
  unfold Lists
  by_cases ho : o.index < w.objects.size
  · rw [object_modify w o o' f ho]
    split
    · next same =>
      subst same
      exact hf name hl
    · exact hl
  · rw [modify_of_size_le (Nat.not_lt.1 ho)]
    exact hl

/-- A change of an object that leaves its lists as they are leaves all lists as they are. -/
theorem listeners?_modify {f : Object → Object}
    (hf : ∀ name, (f (w.object o)).listeners? name = (w.object o).listeners? name) (o' : ObjectId)
    (name : String) : ((w.modify o f).object o').listeners? name = (w.object o').listeners? name := by
  by_cases ho : o.index < w.objects.size
  · rw [object_modify w o o' f ho]
    split
    · next same =>
      subst same
      exact hf name
    · rfl
  · rw [modify_of_size_le (Nat.not_lt.1 ho)]

/-- Values are only written where there is no list. -/
theorem listeners?_assign {k : String} {a : Value} {x : Written} (h : w.assign o k a = .ok x)
    (o' : ObjectId) (name : String) :
    (x.world.object o').listeners? name = (w.object o').listeners? name := by
  unfold assign at h
  split at h
  · next b hb =>
    split at h
    · cases h
    · next t previous hs =>
      cases hv : t.coerce w.typeName k a with
      | error e =>
        rw [hv] at h
        cases h
      | ok u =>
        rw [hv] at h
        cases h
        refine listeners?_modify (fun name => ?_) o' name
        unfold Object.listeners?
        rw [hb]
        dsimp only
        rw [Entries.get?_insert]
        split
        · next same =>
          rw [same, hs]
          rfl
        · rfl
    · cases h
  · next hd =>
    cases h
    exact listeners?_modify (fun _ => by unfold Object.listeners?; rw [hd]) o' name
  · next hi =>
    split at h
    · cases h
      exact listeners?_modify (fun _ => by unfold Object.listeners?; rw [hi]) o' name
    · cases h

theorem keepsListeners_assign {name : String} {a : Value} {x : Written}
    (h : w.assign o name a = .ok x) : KeepsListeners w x.world := by
  intro o' k hl
  unfold Lists
  rw [listeners?_assign h]
  exact hl

instance : World.Enduring KeepsListeners where
  refl _ _ _ h := h
  trans h h' o name hl := h' o name (h o name hl)
  emit _ _ := keepsListeners_of_eq rfl
  exhaust _ := keepsListeners_of_eq rfl
  alloc w x o name hl := by
    unfold Lists
    rw [object_alloc, if_neg (Nat.ne_of_lt (lt_size_of_lists hl))]
    exact hl
  allocTable _ _ := keepsListeners_of_eq rfl
  assign h := keepsListeners_assign h
  append w o v := by
    refine keepsListeners_modify fun name hl => ?_
    split
    · next hc =>
      unfold Object.listeners? at hl
      rw [hc] at hl
      cases hl
    · exact hl
  subscribe w o name s := keepsListeners_modify fun _ hl => hl
  addListener w o name a := by
    refine keepsListeners_modify fun k hl => ?_
    split
    · next b hb =>
      split
      · unfold Object.listeners? at hl ⊢
        rw [hb] at hl
        dsimp only at hl ⊢
        rw [Entries.get?_insert]
        split
        · rfl
        · exact hl
      · exact hl
    · exact hl
  putId h := keepsListeners_of_eq (objects_putId h)

end World

end Bxml
