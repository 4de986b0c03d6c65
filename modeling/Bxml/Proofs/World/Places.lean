import Bxml.World.Table

/-!
# Places for values

A key of an object is a place that holds a value.  Keys of dictionaries and properties of the type
Any take every value; what is written to such a place is there afterwards, and nowhere else.

`Place` is a key of an object, `Place.TakesAny` says that it takes every value, and `Assigned` what
a write to it comes to; `assign_of_takesAny` is the result.  Typed slots are treated in
`World/Slots.lean`.
-/

namespace Bxml

/-- A place for a value. -/
structure Place where
  object : ObjectId
  key : String
deriving DecidableEq, Repr

/-- Whether a key takes every value: one of a dictionary, or a property of the type Any. -/
def Content.TakesAny (c : Content) (k : String) : Prop :=
  match c with
  | .dictionary _ => True
  | .bean b => ∃ v, b.slots.get? k = some (.writable .any v)
  | .list _ => False

namespace World

variable {w v : World} {o : ObjectId} {p q : Place} {a : Value}

/-- The value at a place; null if there is none. -/
def value (w : World) (p : Place) : Value :=
  ((w.object p.object).getProperty p.key).toOption.getD .null

/-- Whether a place takes every value. -/
def TakesAny (w : World) (p : Place) : Prop := (w.object p.object).content.TakesAny p.key

theorem getProperty_of_takesAny (h : w.TakesAny p) :
    (w.object p.object).getProperty p.key = .ok (w.value p) := by
  unfold TakesAny Content.TakesAny at h
  unfold value Object.getProperty
  cases hc : (w.object p.object).content with
  | bean b =>
    rw [hc] at h
    obtain ⟨v, h⟩ := h
    simp [h, Slot.value?, Except.toOption]
  | dictionary d => rfl
  | list items =>
    rw [hc] at h
    exact h.elim

theorem publishes_of_takesAny (h : w.TakesAny p) : (w.object p.object).publishes = true := by
  unfold TakesAny Content.TakesAny at h
  unfold Object.publishes
  cases hc : (w.object p.object).content with
  | list items =>
    rw [hc] at h
    exact h.elim
  | _ => rfl

/-- The objects after one of them is changed. -/
theorem object_modify (w : World) (o o' : ObjectId) (f : Object → Object)
    (ho : o.index < w.objects.size) :
    (w.modify o f).object o' = if o' = o then f (w.object o) else w.object o' := by
  unfold object modify
  simp only [Array.getD_eq_getD_getElem?, Array.getElem?_modify]
  by_cases h : o' = o
  · subst h
    simp [ho]
  · have hi : ¬ o.index = o'.index := fun hi => h (by cases o; cases o'; simp_all)
    rw [if_neg hi, if_neg h]

/-- An assignment changes the content of one object. -/
theorem exists_content_of_assign {k : String} {x : Written} (h : w.assign o k a = .ok x) :
    ∃ c, x.world = w.modify o fun y => { y with content := c } := by
  unfold assign at h
  split at h
  · split at h
    · cases h
    · next t previous _ =>
      cases hc : t.coerce w.typeName k a with
      | error e =>
        rw [hc] at h
        cases h
      | ok u =>
        rw [hc] at h
        cases h
        exact ⟨_, rfl⟩
    · cases h
  · cases h
    exact ⟨_, rfl⟩
  · split at h
    · cases h
      exact ⟨_, rfl⟩
    · cases h

theorem exists_modify_of_assign {k : String} {x : Written} (h : w.assign o k a = .ok x) :
    ∃ f, x.world = w.modify o f :=
  let ⟨_, hx⟩ := exists_content_of_assign h
  ⟨_, hx⟩

theorem putId_eq {t : TableId} {id : String} (h : w.putId t id a = .ok v) :
    id ∉ (w.table t).keys ∧
      v = { w with tables := w.tables.modify t.index fun ids => ids.insert id a } := by
  unfold putId at h
  split at h
  · cases h
  · next hc =>
    cases h
    exact ⟨by simpa [Entries.contains] using hc, rfl⟩

/-- What the assignment of `a` to the place `p` does to a world. -/
structure Assigned (w : World) (p : Place) (a : Value) (x : Written) : Prop where
  value_self : x.world.value p = a
  value_of_ne : ∀ q ≠ p, x.world.value q = w.value q
  takesAny : ∀ q, w.TakesAny q → x.world.TakesAny q
  subscribers : ∀ o, (x.world.object o).subscribers = (w.object o).subscribers
  /-- Nobody is told only if the value was there before. -/
  told : x.previous = none → (w.value p == a) = true

/-- The world after the content of an object is replaced by one that differs from it at one key. -/
theorem assigned_of_content {c : Content} (ho : p.object.index < w.objects.size)
    {previous : Option Value}
    (self : (⟨c, (w.object p.object).subscribers⟩ : Object).getProperty p.key = .ok a)
    (other : ∀ k ≠ p.key, (⟨c, (w.object p.object).subscribers⟩ : Object).getProperty k =
      (w.object p.object).getProperty k)
    (takesAny : ∀ k, (w.object p.object).content.TakesAny k → c.TakesAny k)
    (told : previous = none → (w.value p == a) = true) :
    Assigned w p a ⟨w.modify p.object fun x => { x with content := c }, previous⟩ where
  value_self := by
    unfold value
    rw [object_modify w p.object p.object _ ho, if_pos rfl, self]
    rfl
  value_of_ne q hq := by
    unfold value
    rw [object_modify w p.object q.object _ ho]
    split
    · next h =>
      have hk : q.key ≠ p.key := fun hk => hq (by cases p; cases q; simp_all)
      rw [other q.key hk, h]
    · rfl
  takesAny q h := by
    unfold TakesAny at h ⊢
    rw [object_modify w p.object q.object _ ho]
    split
    · next hq =>
      rw [hq] at h
      exact takesAny q.key h
    · exact h
  subscribers o := by
    rw [object_modify w p.object o _ ho]
    split
    · next h => rw [h]
    · rfl
  told := told

/-- A place that takes every value can be written. -/
theorem assign_of_takesAny (ho : p.object.index < w.objects.size) (h : w.TakesAny p) (a : Value) :
    ∃ x, w.assign p.object p.key a = .ok x ∧ Assigned w p a x := by
  unfold TakesAny at h
  unfold assign
  cases hc : (w.object p.object).content with
  | list items =>
    rw [hc] at h
    exact h.elim
  | bean b =>
    rw [hc] at h
    obtain ⟨previous, hs⟩ := h
    have value : w.value p = previous := by
      unfold World.value Object.getProperty
      simp [hc, hs, Slot.value?, Except.toOption]
    simp only [hs, ValueType.coerce, ValueType.convert?]
    refine ⟨_, rfl, assigned_of_content ho ?self ?other ?takesAny ?told⟩
    case self => simp [Object.getProperty, Slot.value?]
    case other =>
      intro k hk
      simp only [Object.getProperty, hc]
      rw [Entries.get?_insert_of_ne _ _ hk]
    case takesAny =>
      intro k hk
      rw [hc] at hk
      obtain ⟨v, hk⟩ := hk
      by_cases h : k = p.key
      · exact ⟨a, by rw [h]; exact Entries.get?_insert_self _ _ _⟩
      · exact ⟨v, by rw [Entries.get?_insert_of_ne _ _ h]; exact hk⟩
    case told =>
      rw [value]
      split
      · next hp => exact fun _ => hp
      · rintro ⟨⟩
  | dictionary d =>
    refine ⟨_, rfl, assigned_of_content ho ?self ?other ?takesAny ?told⟩
    case self => simp [Object.getProperty]
    case other =>
      intro k hk
      simp only [Object.getProperty, hc]
      rw [Entries.get?_insert_of_ne _ _ hk]
    case takesAny => exact fun _ _ => trivial
    case told =>
      unfold World.value Object.getProperty
      rw [hc]
      cases hg : d.entries.get? p.key with
      | none => rintro ⟨⟩
      | some previous =>
        dsimp only
        split
        · next hp => exact fun _ => by simpa [hg, Except.toOption] using hp
        · rintro ⟨⟩

/-! ## Subscriptions -/

section

variable {o' : ObjectId} {k : String} {s : Subscriber}

theorem content_subscribe (ho : o.index < w.objects.size) :
    ((w.subscribe o k s).object o').content = (w.object o').content := by
  unfold subscribe
  rw [object_modify w o o' _ ho]
  split
  · next h => rw [h]
  · rfl

theorem subscribers_subscribe (ho : o.index < w.objects.size) :
    ((w.subscribe o k s).object o').subscribers =
      (w.object o').subscribers ++ if o' = o then [(k, s)] else [] := by
  unfold subscribe
  rw [object_modify w o o' _ ho]
  split
  · next h => rw [h]
  · rw [List.append_nil]

theorem value_subscribe (ho : o.index < w.objects.size) : (w.subscribe o k s).value p = w.value p := by
  unfold value Object.getProperty
  rw [content_subscribe ho]

theorem takesAny_subscribe (ho : o.index < w.objects.size) :
    (w.subscribe o k s).TakesAny p ↔ w.TakesAny p := by
  unfold TakesAny
  rw [content_subscribe ho]

end

end World

end Bxml
