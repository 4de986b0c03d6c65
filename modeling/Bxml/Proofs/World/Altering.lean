import Bxml.Proofs.World.Writing

/-!
# What counts as a change

Beans and dictionaries tell of a write if the value under the key is not equal to the one that was
there, or if the key is new.  `assign_cases` says all that a write which is accepted can do; who is
told, and of which value, is read off it in `previous_eq_some_iff`.

`Alters` is the condition in terms of two worlds, which `alters_slot_iff` and `alters_entry_iff`
spell out for properties and keys.
-/

namespace Bxml

/-- A bean with another value in a slot that can be written. -/
def Bean.store (b : Bean) (k : String) (t : ValueType) (c : Value) : Bean :=
  { b with slots := b.slots.insert k (.writable t c) }

namespace World

/-- The world with another content of an object. -/
def setContent (w : World) (o : ObjectId) (c : Content) : World :=
  w.modify o fun y => { y with content := c }

variable {w v : World} {o : ObjectId} {k : String} {p q : Place} {a previous : Value} {x : Written}

/-- What a write that is accepted does: it stores the converted value in a bean, any value in a
dictionary, or replaces an item of a list. -/
theorem assign_cases (hx : w.assign o k a = .ok x) :
    (∃ b t old c, (w.object o).content = .bean b ∧ b.slots.get? k = some (.writable t old) ∧
      t.coerce w.typeName k a = .ok c ∧
      x = ⟨w.setContent o (.bean (b.store k t c)), if old == c then none else some old⟩) ∨
    (∃ d, (w.object o).content = .dictionary d ∧ x = w.storeKey o d k a) ∨
    ∃ items i, (w.object o).content = .list items ∧ Object.index? items k = some i ∧
      x = ⟨w.setContent o (.list (items.set i a)), none⟩ := by
  unfold assign at hx
  cases hc : (w.object o).content with
  | bean b =>
    rw [hc] at hx
    refine .inl ⟨b, ?_⟩
    dsimp only at hx
    split at hx
    · cases hx
    · next t old hs =>
      cases hv : t.coerce w.typeName k a with
      | error e =>
        rw [hv] at hx
        cases hx
      | ok c =>
        rw [hv] at hx
        cases hx
        exact ⟨t, old, c, rfl, hs, hv, rfl⟩
    · cases hx
  | dictionary d =>
    rw [hc] at hx
    cases hx
    exact .inr (.inl ⟨d, rfl, rfl⟩)
  | list items =>
    rw [hc] at hx
    dsimp only at hx
    split at hx
    · next i hi =>
      cases hx
      exact .inr (.inr ⟨items, i, rfl, hi, rfl⟩)
    · cases hx

theorem object_setContent (ho : o.index < w.objects.size) (c : Content) (o' : ObjectId) :
    (w.setContent o c).object o' = if o' = o then ⟨c, (w.object o).subscribers⟩ else w.object o' :=
  object_modify w o o' _ ho

theorem object_eq_default (ho : ¬ o.index < w.objects.size) : w.object o = default := by
  unfold object
  rw [Array.getD_eq_getD_getElem?, Array.getElem?_eq_none (Nat.le_of_not_lt ho)]
  rfl

theorem lt_size_of_bean {b : Bean} (hc : (w.object o).content = .bean b) :
    o.index < w.objects.size := by
  refine Decidable.byContradiction fun hn => ?_
  rw [object_eq_default hn] at hc
  cases hc

theorem lt_size_of_entry {d : Dictionary} {old : Value}
    (hc : (w.object o).content = .dictionary d) (hg : d.entries.get? k = some old) :
    o.index < w.objects.size := by
  refine Decidable.byContradiction fun hn => ?_
  rw [object_eq_default hn] at hc
  cases hc
  cases hg

/-- There is nothing to change in an object that does not exist. -/
theorem modify_of_not_lt (ho : ¬ o.index < w.objects.size) (f : Object → Object) :
    w.modify o f = w := by
  have same : w.objects.modify o.index f = w.objects := by
    refine Array.ext_getElem? fun i => ?_
    rw [Array.getElem?_modify]
    split
    · next h =>
      rw [← h, Array.getElem?_eq_none (Nat.le_of_not_lt ho)]
      rfl
    · rfl
  unfold modify
  rw [same]

theorem world_assign_of_not_lt (ho : ¬ o.index < w.objects.size)
    (hx : w.assign o k a = .ok x) : x.world = w := by
  obtain ⟨f, hf⟩ := exists_modify_of_assign hx
  rw [hf, modify_of_not_lt ho]

theorem exists_wrote_of_assign (ho : p.object.index < w.objects.size)
    (hx : w.assign p.object p.key a = .ok x) :
    ∃ c, w.converted p a = .ok c ∧ w.Wrote p c x.world := by
  cases hc : w.converted p a with
  | error e => cases hx.symm.trans (assign_of_not_converted hc)
  | ok c =>
    obtain ⟨y, hy, wrote⟩ := assign_of_converted ho hc
    cases hx.symm.trans hy
    exact ⟨c, rfl, wrote⟩

/-! ## What stays -/

theorem subscribers_of_assign (hx : w.assign p.object p.key a = .ok x) (o : ObjectId) :
    (x.world.object o).subscribers = (w.object o).subscribers := by
  by_cases ho : p.object.index < w.objects.size
  · obtain ⟨c, -, wrote⟩ := exists_wrote_of_assign ho hx
    exact wrote.subscribers o
  · rw [world_assign_of_not_lt ho hx]

theorem publishes_of_assign (hx : w.assign o k a = .ok x) (o' : ObjectId) :
    (x.world.object o').publishes = (w.object o').publishes := by
  by_cases ho : o.index < w.objects.size
  · have kept {c : Content} (hc : (w.object o).publishes = (⟨c, []⟩ : Object).publishes) :
        ((w.setContent o c).object o').publishes = (w.object o').publishes := by
      rw [object_setContent ho]
      split
      · next h =>
        rw [h, hc]
        rfl
      · rfl
    rcases assign_cases hx with ⟨b, _, _, _, hc, -, -, rfl⟩ | ⟨d, hc, rfl⟩ | ⟨items, _, hc, -, rfl⟩ <;>
    · refine kept ?_
      unfold Object.publishes
      rw [hc]
  · rw [world_assign_of_not_lt ho hx]

/-- Other places of objects that tell of their changes keep their values. -/
theorem read_of_assign_of_ne (hx : w.assign p.object p.key a = .ok x)
    (hq : (w.object q.object).publishes = true) (hne : q ≠ p) : x.world.read q = w.read q := by
  by_cases ho : p.object.index < w.objects.size
  · obtain ⟨c, -, wrote⟩ := exists_wrote_of_assign ho hx
    refine wrote.read_of_ne q fun he => ?_
    obtain ⟨object, key⟩ := Prod.mk.inj he
    have single : ∀ items, (w.object q.object).content ≠ .list items := by
      intro items hc
      unfold Object.publishes at hq
      rw [hc] at hq
      cases hq
    rw [Object.slot_of_not_list single, ← object, Object.slot_of_not_list single] at key
    exact hne (by cases p; cases q; simp_all)
  · rw [world_assign_of_not_lt ho hx]

/-! ## Alterations -/

/-- Whether the value at a place of an object that tells of its changes is another one in a later
world, or was not there before. -/
structure Alters (w : World) (p : Place) (v : World) : Prop where
  publishes : (w.object p.object).publishes = true
  differs : (w.object p.object).hasProperty p.key = true → ¬ (w.value p == v.value p) = true

theorem alters_iff {old c : Value} (publishes : (w.object p.object).publishes = true)
    (defined : (w.object p.object).hasProperty p.key = true) (value : w.value p = old)
    (stored : v.value p = c) : w.Alters p v ↔ ¬ (old == c) = true := by
  rw [← value, ← stored]
  exact ⟨fun h => h.differs defined, fun h => ⟨publishes, fun _ => h⟩⟩

theorem value_of_assign {c : Value} (hx : w.assign p.object p.key a = .ok x)
    (ho : p.object.index < w.objects.size) (hc : w.converted p a = .ok c) :
    x.world.value p = c := by
  obtain ⟨d, hd, wrote⟩ := exists_wrote_of_assign ho hx
  cases hc.symm.trans hd
  exact congrArg (·.toOption.getD .null) wrote.read_self

/-- A write to a slot of a bean alters it if the slot held something unequal. -/
theorem alters_slot_iff {b : Bean} {t : ValueType} {old c : Value}
    (hx : w.assign p.object p.key a = .ok x) (hb : (w.object p.object).content = .bean b)
    (hs : b.slots.get? p.key = some (.writable t old)) (hc : t.coerce w.typeName p.key a = .ok c) :
    w.value p = old ∧ (w.Alters p x.world ↔ ¬ (old == c) = true) := by
  have converted : w.converted p a = .ok c := by
    unfold World.converted Object.converted
    rw [hb]
    dsimp only
    rw [hs]
    exact hc
  have value : w.value p = old := by
    unfold World.value Object.getProperty
    simp [hb, hs, Slot.value?, Except.toOption]
  have publishes : (w.object p.object).publishes = true := by
    unfold Object.publishes
    rw [hb]
  have defined : (w.object p.object).hasProperty p.key = true := by
    unfold Object.hasProperty Object.propertyKind
    simp [hb, hs, Slot.kind]
  exact ⟨value, alters_iff publishes defined value (value_of_assign hx (lt_size_of_bean hb) converted)⟩

/-- A write to a key of a dictionary alters it unless the key held something equal. -/
theorem alters_entry_iff {d : Dictionary} (hx : w.assign p.object p.key a = .ok x)
    (hd : (w.object p.object).content = .dictionary d) :
    w.value p = (d.entries.get? p.key).getD .null ∧
      (w.Alters p x.world ↔ ∀ old, d.entries.get? p.key = some old → ¬ (old == a) = true) := by
  have publishes : (w.object p.object).publishes = true := by
    unfold Object.publishes
    rw [hd]
  have defined : (w.object p.object).hasProperty p.key = (d.entries.get? p.key).isSome := by
    unfold Object.hasProperty
    rw [hd, Entries.isSome_get?]
  have value : w.value p = (d.entries.get? p.key).getD .null := by
    unfold World.value Object.getProperty
    rw [hd]
    rfl
  refine ⟨value, ?_⟩
  cases hg : d.entries.get? p.key with
  | none =>
    rw [hg] at defined
    exact iff_of_true ⟨publishes, fun h => by simp [defined] at h⟩ nofun
  | some old =>
    rw [hg] at defined value
    have converted : w.converted p a = .ok a := by
      unfold World.converted Object.converted
      rw [hd]
    rw [alters_iff publishes defined value (value_of_assign hx (lt_size_of_entry hd hg) converted)]
    simp

/-- Who is told of an assignment is told that it alters something, and what was there. -/
theorem previous_eq_some_iff (hx : w.assign p.object p.key a = .ok x) :
    x.previous = some previous ↔ w.Alters p x.world ∧ w.value p = previous := by
  rcases assign_cases hx with ⟨b, t, old, c, hb, hs, hc, rfl⟩ | ⟨d, hd, rfl⟩ | ⟨items, i, hc, hi, rfl⟩
  · obtain ⟨value, alters⟩ := alters_slot_iff hx hb hs hc
    rw [alters, value]
    by_cases he : (old == c) = true <;> simp [he]
  · obtain ⟨value, alters⟩ := alters_entry_iff hx hd
    rw [alters, value]
    unfold storeKey
    cases hg : d.entries.get? p.key with
    | none => simp
    | some old => by_cases he : (old == a) = true <;> simp [he]
  · refine iff_of_false (fun h => by cases h) fun h => ?_
    have publishes := h.1.publishes
    unfold Object.publishes at publishes
    rw [hc] at publishes
    cases publishes

end World

end Bxml
