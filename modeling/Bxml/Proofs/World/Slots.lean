import Bxml.Proofs.World.Places

/-!
# Slots

A slot is a key of a dictionary or a property of a bean that can be written.  It has a type, and
stores what a written value becomes as a value of that type.  Null belongs to every type, and what
a slot stores it takes as it is.

* `ValueType.stored?` is what a slot stores, and `stored?_stored?` says that it takes that as it is.
* `Place.Stored` is what a write comes to: `assign_of_stored` where the slot stores something, and
  `assign_of_refused` where it does not.
* `ValueType.owns` says which values a type stands for; `owns_of_stored?` is about what is found in
  a slot.
-/

namespace Bxml

namespace ValueType

/-- What a slot of the type stores when `v` is written to it.  The names of types of objects play
no part in it. -/
def stored? (t : ValueType) (v : Value) : Option Value := t.convert? (fun _ => "") v

theorem convert?_eq_stored? (typeName : ObjectId → String) (t : ValueType) (v : Value) :
    t.convert? typeName v = t.stored? v := by
  cases t <;> cases v <;> rfl

@[simp] theorem stored?_any (v : Value) : ValueType.any.stored? v = some v := rfl

theorem stored?_string (s : String) :
    ValueType.string.stored? (.string s) = some (.string s) := rfl

theorem stored?_eq_read? (t : ValueType) (s : String) : t.stored? (.string s) = t.read? s := by
  unfold stored? convert?
  cases t <;> rfl

theorem coerce_eq_ok {typeName : ObjectId → String} {t : ValueType} {name : String} {v c : Value} :
    t.coerce typeName name v = .ok c ↔ t.stored? v = some c := by
  unfold coerce
  rw [convert?_eq_stored?]
  cases t.stored? v <;> simp

/-- A string is read as a value of the type. -/
theorem stored?_of_read? {t : ValueType} {s : String} {c : Value} (h : t.read? s = some c) :
    t.stored? c = some c := by
  unfold read? at h
  cases t with
  | bool =>
    simp only at h
    split at h
    · cases h
      rfl
    · split at h
      · cases h
        rfl
      · cases h
  | int | float | url =>
    obtain ⟨_, _, rfl⟩ := Option.map_eq_some_iff.1 h
    rfl
  | any => rfl
  | string =>
    cases h
    exact stored?_string s
  | object => cases h

/-- A slot for strings stores null, or a string. -/
theorem stored?_string_cases {v c : Value} (h : ValueType.string.stored? v = some c) :
    v = c ∨ ∃ s, c = .string s := by
  cases v
  case null | string =>
    cases h
    exact .inl rfl
  case object => cases h
  all_goals exact .inr ⟨_, (Option.some.inj h).symm⟩

/-- What is stored once is stored again as it is. -/
theorem stored?_stored? {t : ValueType} {v c : Value} (h : t.stored? v = some c) :
    t.stored? c = some c := by
  cases t with
  | any => rfl
  | string =>
    rcases stored?_string_cases h with rfl | ⟨s, rfl⟩
    · exact h
    · exact stored?_string s
  | bool | int | float | url | object =>
    cases v
    case string s =>
      rw [stored?_eq_read?] at h
      exact stored?_of_read? h
    all_goals first | exact (Option.some.inj h) ▸ rfl | cases h

/-- Whether a value is of the kind that a type stands for. The type Any stands for all. -/
def owns : ValueType → Value → Bool
  | .any, _ => true
  | .bool, .bool _ => true
  | .int, .int _ => true
  | .float, .float _ => true
  | .string, .string _ => true
  | .url, .url _ => true
  | .object, .object _ => true
  | _, _ => false

theorem owns_of_read? {t : ValueType} {s : String} {c : Value} (h : t.read? s = some c) :
    t.owns c = true := by
  unfold read? at h
  cases t with
  | any => rfl
  | bool =>
    simp only at h
    split at h
    · cases h
      rfl
    · split at h
      · cases h
        rfl
      · cases h
  | int | float | url =>
    obtain ⟨_, _, rfl⟩ := Option.map_eq_some_iff.1 h
    rfl
  | string =>
    cases h
    rfl
  | object => cases h

/-- A slot stores null, or a value of the kind its type stands for. -/
theorem owns_of_stored? {t : ValueType} {v c : Value} (h : t.stored? v = some c) :
    c = .null ∨ t.owns c = true := by
  cases v
  case null =>
    cases t
    case any => exact .inr rfl
    all_goals exact .inl (Option.some.inj h).symm
  case string s =>
    rw [stored?_eq_read?] at h
    exact .inr (owns_of_read? h)
  all_goals
    cases t <;> first | exact .inr ((Option.some.inj h) ▸ rfl) | cases h

/-- What a slot for strings stores equals no value of another kind. -/
theorem eq_of_beq_stored?_string {v c : Value} (h : ValueType.string.stored? v = some c)
    (hc : (v == c) = true) : v = c := by
  rcases stored?_string_cases h with rfl | ⟨s, rfl⟩
  · rfl
  · change Value.same v (.string s) = true at hc
    cases v <;> simp only [Value.same, Bool.false_eq_true] at hc
    rw [beq_iff_eq] at hc
    rw [hc]

end ValueType

/-- The type of a slot of an object. -/
def Object.slotType? (x : Object) (k : String) : Option ValueType :=
  match x.content with
  | .bean b =>
    match b.slots.get? k with
    | some (.writable t _) => some t
    | _ => none
  | .dictionary _ => some .any
  | .list _ => none

namespace World

variable {w : World} {p : Place} {t : ValueType} {a c : Value}

/-- The type of a slot. -/
def slotType? (w : World) (p : Place) : Option ValueType :=
  w.objects[p.object.index]?.bind (·.slotType? p.key)

theorem lt_size_of_slotType? (h : w.slotType? p = some t) : p.object.index < w.objects.size := by
  refine Nat.lt_of_not_le fun hn => ?_
  unfold slotType? at h
  rw [Array.getElem?_eq_none hn] at h
  cases h

theorem slotType?_eq (ho : p.object.index < w.objects.size) :
    w.slotType? p = (w.object p.object).slotType? p.key := by
  unfold slotType? object
  rw [Array.getD_eq_getD_getElem?, Array.getElem?_eq_getElem ho]
  rfl

theorem slotType?_object (h : w.slotType? p = some t) :
    (w.object p.object).slotType? p.key = some t := by
  rwa [← slotType?_eq (lt_size_of_slotType? h)]

theorem getProperty_of_slotType? (h : w.slotType? p = some t) :
    (w.object p.object).getProperty p.key = .ok (w.value p) := by
  have h := slotType?_object h
  unfold Object.slotType? at h
  unfold value Object.getProperty
  cases hc : (w.object p.object).content with
  | bean b =>
    rw [hc] at h
    cases hs : b.slots.get? p.key with
    | none => simp [hs] at h
    | some s => cases s <;> simp_all [Slot.value?, Except.toOption]
  | dictionary d => rfl
  | list items =>
    rw [hc] at h
    cases h

/-- What the writing of `a` to the slot `p`, which stores `c` for it, does to a world. -/
structure Stored (w : World) (p : Place) (a c : Value) (x : Written) : Prop where
  value_self : x.world.value p = c
  value_of_ne : ∀ q ≠ p, x.world.value q = w.value q
  slotType : ∀ q, x.world.slotType? q = w.slotType? q
  subscribers : ∀ o, (x.world.object o).subscribers = (w.object o).subscribers
  exhausted : x.world.exhausted = w.exhausted
  /-- Nobody is told only if the value was there before. -/
  quiet : x.previous = none → (w.value p == c) = true
  /-- Somebody is told only if the value is another one, or the key was not defined. -/
  told : ∀ v, x.previous = some v → ¬ (w.value p == a) = true → ¬ (w.value p == c) = true

/-- The world after the content of an object is replaced by one that differs from it in one slot. -/
theorem stored_of_content {d : Content} (ho : p.object.index < w.objects.size)
    {previous : Option Value}
    (self : (⟨d, (w.object p.object).subscribers⟩ : Object).getProperty p.key = .ok c)
    (other : ∀ k ≠ p.key, (⟨d, (w.object p.object).subscribers⟩ : Object).getProperty k =
      (w.object p.object).getProperty k)
    (slotType : ∀ k, (⟨d, (w.object p.object).subscribers⟩ : Object).slotType? k =
      (w.object p.object).slotType? k)
    (quiet : previous = none → (w.value p == c) = true)
    (told : ∀ v, previous = some v → ¬ (w.value p == a) = true → ¬ (w.value p == c) = true) :
    Stored w p a c ⟨w.modify p.object fun x => { x with content := d }, previous⟩ where
  value_self := by
    unfold value
    rw [object_modify w p.object p.object _ ho, if_pos rfl, self]
    rfl
  value_of_ne q hq := by
    unfold value
    rw [object_modify w p.object q.object _ ho]
    split
    · next h =>
      have hk : q.key ≠ p.key := fun hk => hq (by cases p; cases q; simp_all)
      rw [other q.key hk, h]
    · rfl
  slotType q := by
    have size : (w.modify p.object fun x => { x with content := d }).objects.size =
      w.objects.size := Array.size_modify
    by_cases hq : q.object.index < w.objects.size
    · rw [slotType?_eq hq, slotType?_eq (by rwa [size]), object_modify w p.object q.object _ ho]
      split
      · next h =>
        rw [h]
        exact slotType q.key
      · rfl
    · unfold slotType?
      rw [Array.getElem?_eq_none (Nat.le_of_not_lt hq),
        Array.getElem?_eq_none (by rw [size]; exact Nat.le_of_not_lt hq)]
  subscribers o := by
    rw [object_modify w p.object o _ ho]
    split
    · next h => rw [h]
    · rfl
  exhausted := rfl
  quiet := quiet
  told := told

/-- A slot refuses what it stores nothing for. -/
theorem assign_of_refused (h : w.slotType? p = some t) (ha : t.stored? a = none) :
    ∃ e, w.assign p.object p.key a = .error e := by
  have h := slotType?_object h
  unfold Object.slotType? at h
  unfold assign
  cases hc : (w.object p.object).content with
  | bean b =>
    rw [hc] at h
    simp only at h
    split at h
    · next hs =>
      cases h
      simp only [hs, ValueType.coerce, ValueType.convert?_eq_stored?, ha]
      exact ⟨_, rfl⟩
    · cases h
  | dictionary d =>
    rw [hc] at h
    cases h
    cases ha
  | list items =>
    rw [hc] at h
    cases h

/-- A slot stores what the written value becomes. -/
theorem assign_of_stored (h : w.slotType? p = some t) (ha : t.stored? a = some c) :
    ∃ x, w.assign p.object p.key a = .ok x ∧ Stored w p a c x := by
  have ho := lt_size_of_slotType? h
  have h := slotType?_object h
  unfold Object.slotType? at h
  unfold assign
  cases hc : (w.object p.object).content with
  | list items =>
    rw [hc] at h
    cases h
  | bean b =>
    rw [hc] at h
    simp only at h
    split at h
    case h_2 => cases h
    case h_1 t' previous hs =>
    cases h
    have value : w.value p = previous := by
      unfold World.value Object.getProperty
      simp [hc, hs, Slot.value?, Except.toOption]
    simp only [hs, ValueType.coerce, ValueType.convert?_eq_stored?, ha]
    refine ⟨_, rfl, stored_of_content ho ?self ?other ?slotType ?quiet ?told⟩
    case self => simp [Object.getProperty, Slot.value?]
    case other =>
      intro k hk
      simp only [Object.getProperty, hc]
      rw [Entries.get?_insert_of_ne _ _ hk]
    case slotType =>
      intro k
      simp only [Object.slotType?, hc]
      by_cases hk : k = p.key
      · rw [hk, Entries.get?_insert_self, hs]
      · rw [Entries.get?_insert_of_ne _ _ hk]
    case quiet =>
      rw [value]
      split
      · next hp => exact fun _ => hp
      · rintro ⟨⟩
    case told =>
      rw [value]
      split
      · rintro _ ⟨⟩
      · next hp => exact fun _ _ _ => hp
  | dictionary d =>
    rw [hc] at h
    cases h
    cases ha
    refine ⟨_, rfl, stored_of_content ho ?self ?other ?slotType ?quiet ?told⟩
    case self => simp [Object.getProperty]
    case other =>
      intro k hk
      simp only [Object.getProperty, hc]
      rw [Entries.get?_insert_of_ne _ _ hk]
    case slotType =>
      intro k
      simp only [Object.slotType?, hc]
    case quiet =>
      unfold World.value Object.getProperty
      rw [hc]
      cases hg : d.entries.get? p.key with
      | none => rintro ⟨⟩
      | some previous =>
        dsimp only
        split
        · next hp => exact fun _ => by simpa [hg, Except.toOption] using hp
        · rintro ⟨⟩
    case told => exact fun _ _ hn => hn

end World

end Bxml
