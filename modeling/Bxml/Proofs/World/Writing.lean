import Bxml.Proofs.World.Slots

/-!
# What a write changes

A key of an object stands for a slot.  In a list two keys that are the same index stand for the same
slot; everywhere else a key stands for a slot of its own.  A write that is accepted puts the value,
converted to the declared type, into its slot, and changes no other slot of any object.

* `Object.slot` is the slot behind a key, and `Object.converted` what it stores for a value, or why
  it refuses it.
* `Place.Wrote` is what a write comes to: `assign_of_converted` where it is accepted, and
  `assign_of_not_converted` where it is not.
-/

namespace Bxml

/-- The slot of an object that a key stands for: an item of a list, or a slot of that name. -/
def Object.slot (x : Object) (k : String) : String ⊕ Nat :=
  match x.content with
  | .list items =>
    match index? items k with
    | some i => .inr i
    | none => .inl k
  | _ => .inl k

/-- The value as which an object takes `a` under a key, or why it refuses it. -/
def Object.converted (x : Object) (typeName : ObjectId → String) (k : String) (a : Value) :
    Except PropertyError Value :=
  match x.content with
  | .bean b =>
    match b.slots.get? k with
    | none => .error (.noSuchProperty b.typeName k)
    | some (.writable t _) => t.coerce typeName k a
    | some _ => .error (.readOnly b.typeName k)
  | .dictionary _ => .ok a
  | .list items =>
    match index? items k with
    | some _ => .ok a
    | none => .error (.readOnly listType k)

namespace Object

variable {x : Object} {k : String} {a c : Value} {items : List Value}

theorem slot_of_list (h : x.content = .list items) :
    x.slot k = match index? items k with
      | some i => .inr i
      | none => .inl k := by
  unfold slot
  rw [h]

theorem slot_of_not_list (h : ∀ items, x.content ≠ .list items) : x.slot k = .inl k := by
  unfold slot
  split
  · next items hc => exact absurd hc (h items)
  · rfl

theorem lt_of_index? {i : Nat} (h : index? items k = some i) : i < items.length := by
  unfold index? at h
  simpa using (Option.filter_eq_some_iff.1 h).2

theorem index?_set (i : Nat) (v : Value) : index? (items.set i v) k = index? items k := by
  unfold index?
  rw [List.length_set]

theorem index?_length (items : List Value) : index? items lengthProperty = none := by
  have unread : Text.readIndex? lengthProperty.toList = none := by decide +kernel
  unfold index?
  rw [unread]
  rfl

end Object

namespace World

variable {w v : World} {p q : Place} {a c : Value} {x : Written}

/-- The slot at a place. -/
def slot (w : World) (p : Place) : ObjectId × (String ⊕ Nat) :=
  (p.object, (w.object p.object).slot p.key)

/-- What a place reads. -/
def read (w : World) (p : Place) : Except PropertyError Value :=
  (w.object p.object).getProperty p.key

/-- A subscription changes nothing that can be read. -/
theorem read_subscribe {o : ObjectId} {k : String} {s : Subscriber}
    (ho : o.index < w.objects.size) : (w.subscribe o k s).read p = w.read p := by
  unfold read Object.getProperty
  rw [content_subscribe ho]

/-- The value as which a place takes `a`, or why it refuses it. -/
def converted (w : World) (p : Place) (a : Value) : Except PropertyError Value :=
  (w.object p.object).converted w.typeName p.key a

/-- What the writing of a value that is stored as `c` does to a world. -/
structure Wrote (w : World) (p : Place) (c : Value) (v : World) : Prop where
  read_self : v.read p = .ok c
  read_of_ne : ∀ q, w.slot q ≠ w.slot p → v.read q = w.read q
  converted : ∀ q b, v.converted q b = w.converted q b
  slot : ∀ q, v.slot q = w.slot q
  typeName : v.typeName = w.typeName
  subscribers : ∀ o, (v.object o).subscribers = (w.object o).subscribers
  size : v.objects.size = w.objects.size
  tables : v.tables = w.tables
  trace : v.trace = w.trace
  exhausted : v.exhausted = w.exhausted

theorem Wrote.subscribersOf (h : w.Wrote p c v) (o : ObjectId) (k : String) :
    (v.object o).subscribersOf k = (w.object o).subscribersOf k := by
  unfold Object.subscribersOf
  rw [h.subscribers]

/-- The world after the content of an object is replaced by one that differs from it in one slot. -/
theorem wrote_of_content {d : Content} (ho : p.object.index < w.objects.size)
    (self : (⟨d, (w.object p.object).subscribers⟩ : Object).getProperty p.key = .ok c)
    (other : ∀ k, (w.object p.object).slot k ≠ (w.object p.object).slot p.key →
      (⟨d, (w.object p.object).subscribers⟩ : Object).getProperty k =
        (w.object p.object).getProperty k)
    (converted : ∀ k b, (⟨d, (w.object p.object).subscribers⟩ : Object).converted w.typeName k b =
      (w.object p.object).converted w.typeName k b)
    (slot : ∀ k, (⟨d, (w.object p.object).subscribers⟩ : Object).slot k =
      (w.object p.object).slot k)
    (typeName : (⟨d, (w.object p.object).subscribers⟩ : Object).typeName =
      (w.object p.object).typeName) :
    Wrote w p c (w.modify p.object fun x => { x with content := d }) := by
  let v := w.modify p.object fun x => { x with content := d }
  have object (o : ObjectId) : v.object o = if o = p.object then
      ⟨d, (w.object p.object).subscribers⟩ else w.object o := object_modify w p.object o _ ho
  have names : v.typeName = w.typeName := by
    funext o
    unfold World.typeName
    rw [object]
    split
    · next h => rw [h, typeName]
    · rfl
  refine ⟨?_, fun q hq => ?_, fun q b => ?_, fun q => ?_, names, fun o => ?_, Array.size_modify,
    rfl, rfl, rfl⟩
  · change (v.object p.object).getProperty p.key = _
    rw [object, if_pos rfl, self]
  · change (v.object q.object).getProperty q.key = (w.object q.object).getProperty q.key
    rw [object]
    split
    · next h =>
      rw [h]
      exact other q.key fun hk => hq (Prod.ext h (by simpa [World.slot, h] using hk))
    · rfl
  · change (v.object q.object).converted v.typeName q.key b =
      (w.object q.object).converted w.typeName q.key b
    rw [object, names]
    split
    · next h => rw [h, converted]
    · rfl
  · change (q.object, (v.object q.object).slot q.key) = (q.object, (w.object q.object).slot q.key)
    rw [object]
    split
    · next h => rw [h, slot]
    · rfl
  · change (v.object o).subscribers = (w.object o).subscribers
    rw [object]
    split
    · next h => rw [h]
    · rfl

/-- A place refuses what it cannot take, for the reason given. -/
theorem assign_of_not_converted {e : PropertyError} (h : w.converted p a = .error e) :
    w.assign p.object p.key a = .error e := by
  unfold converted Object.converted at h
  unfold assign
  cases hc : (w.object p.object).content with
  | bean b =>
    rw [hc] at h
    dsimp only at h ⊢
    cases hs : b.slots.get? p.key with
    | none =>
      rw [hs] at h
      cases h
      rfl
    | some s =>
      rw [hs] at h
      cases s with
      | writable t previous =>
        dsimp only at h ⊢
        rw [h]
        rfl
      | _ =>
        cases h
        rfl
  | dictionary d =>
    rw [hc] at h
    cases h
  | list items =>
    rw [hc] at h
    dsimp only at h ⊢
    cases hi : Object.index? items p.key with
    | none =>
      rw [hi] at h
      cases h
      rfl
    | some i =>
      rw [hi] at h
      cases h

/-- A place stores what it takes, and nothing else changes. -/
theorem assign_of_converted (ho : p.object.index < w.objects.size)
    (h : w.converted p a = .ok c) :
    ∃ x, w.assign p.object p.key a = .ok x ∧ Wrote w p c x.world := by
  unfold converted Object.converted at h
  unfold assign
  cases hc : (w.object p.object).content with
  | bean b =>
    rw [hc] at h
    dsimp only at h ⊢
    obtain ⟨t, previous, hs⟩ : ∃ t previous, b.slots.get? p.key = some (.writable t previous) := by
      cases hs : b.slots.get? p.key with
      | none =>
        rw [hs] at h
        cases h
      | some s =>
        rw [hs] at h
        cases s with
        | writable t previous => exact ⟨t, previous, rfl⟩
        | _ => cases h
    rw [hs] at h ⊢
    dsimp only at h ⊢
    rw [h]
    refine ⟨_, rfl, wrote_of_content ho ?self ?other ?converted ?slot ?typeName⟩
    case self => simp [Object.getProperty, Slot.value?]
    case other =>
      intro k hk
      rw [Object.slot_of_not_list (by simp [hc]), Object.slot_of_not_list (by simp [hc])] at hk
      simp only [Object.getProperty, hc]
      rw [Entries.get?_insert_of_ne _ _ fun e => hk (congrArg _ e)]
    case converted =>
      intro k d
      simp only [Object.converted, hc]
      by_cases hk : k = p.key
      · rw [hk, Entries.get?_insert_self, hs]
      · rw [Entries.get?_insert_of_ne _ _ hk]
    case slot => simp [Object.slot, hc]
    case typeName => simp [Object.typeName, hc]
  | dictionary d =>
    rw [hc] at h
    cases h
    refine ⟨_, rfl, wrote_of_content ho ?self ?other ?converted ?slot ?typeName⟩
    case self => simp [Object.getProperty]
    case other =>
      intro k hk
      rw [Object.slot_of_not_list (by simp [hc]), Object.slot_of_not_list (by simp [hc])] at hk
      simp only [Object.getProperty, hc]
      rw [Entries.get?_insert_of_ne _ _ fun e => hk (congrArg _ e)]
    case converted => simp [Object.converted, hc]
    case slot => simp [Object.slot, hc]
    case typeName => simp [Object.typeName, hc]
  | list items =>
    rw [hc] at h
    dsimp only at h ⊢
    obtain ⟨i, hi⟩ : ∃ i, Object.index? items p.key = some i := by
      cases hi : Object.index? items p.key with
      | none =>
        rw [hi] at h
        cases h
      | some i => exact ⟨i, rfl⟩
    rw [hi] at h ⊢
    cases h
    have notLength : p.key ≠ Object.lengthProperty := by
      intro hk
      rw [hk, Object.index?_length] at hi
      cases hi
    refine ⟨_, rfl, wrote_of_content ho ?self ?other ?converted ?slot ?typeName⟩
    case self =>
      simp only [Object.getProperty, notLength, if_false, Object.index?_set, hi, Option.bind_some]
      rw [List.getElem?_set_self (Object.lt_of_index? hi)]
    case other =>
      intro k hk
      rw [Object.slot_of_list hc, Object.slot_of_list hc, hi] at hk
      simp only [Object.getProperty, hc, List.length_set, Object.index?_set]
      split
      · rfl
      · cases hj : Object.index? items k with
        | none => rfl
        | some j =>
          have hne : i ≠ j := by
            rintro rfl
            exact hk (by rw [hj])
          simp only [Option.bind_some, List.getElem?_set_ne hne]
    case converted => simp [Object.converted, hc, Object.index?_set]
    case slot => simp [Object.slot, hc, Object.index?_set]
    case typeName => simp [Object.typeName, hc]

end World

end Bxml
