import Bxml.Proofs.Twins.Objects
import Bxml.Proofs.World.Alive

/-!
# Twin worlds

After the same steps two worlds have grown by as many objects and tables, those that correspond are
in the same state, and everything else is as it was at the beginning.  An object that corresponds to
another one lives as long as that one.

* `SameWorld` is the invariant of two loads.
* `SameHeld` compares what is held from outside.  It need not be the same altogether, as one of two
  documents may hold more of its surroundings; `Enclosed` says of what only one of them holds that
  it does not count.
* `isAlive_eq` is what it is for, by the relation between lives of `World/Alive.lean`.
-/

namespace Bxml.Twins

variable (S : Twins)

/-- Whether two worlds have come about by the same steps. -/
structure SameWorld (w w' : World) : Prop where
  size : ∃ k, w.objects.size = S.left.objects.size + k ∧ w'.objects.size = S.right.objects.size + k
  tablesSize : ∃ k, w.tables.size = S.left.tables.size + k ∧
    w'.tables.size = S.right.tables.size + k
  object : ∀ {o p}, S.SameObject o p → S.SameState (w.object o) (w'.object p)
  table : ∀ {t u}, S.SameTable t u → Entries.Rel S.SameValue (w.table t) (w'.table u)
  left_object : ∀ {o : ObjectId}, o.index < S.left.objects.size → (∀ p, ¬ S.shared o p) →
    w.object o = S.left.object o
  right_object : ∀ {p : ObjectId}, p.index < S.right.objects.size → (∀ o, ¬ S.shared o p) →
    w'.object p = S.right.object p
  left_table : ∀ {t : TableId}, t.index < S.left.tables.size → w.table t = S.left.table t
  right_table : ∀ {t : TableId}, t.index < S.right.tables.size → w'.table t = S.right.table t

/-- Whether nothing that was there before holds two objects, apart from what is shared. -/
structure Enclosed (o p : ObjectId) : Prop where
  left_object : ∀ {q}, (∀ r, ¬ S.shared q r) → .object o ∉ (S.left.object q).heldValues
  left_table : ∀ t, .object o ∉ (S.left.table t).values
  right_object : ∀ {q}, (∀ r, ¬ S.shared r q) → .object p ∉ (S.right.object q).heldValues
  right_table : ∀ t, .object p ∉ (S.right.table t).values

/-- Whether the same is held from outside. Objects that are shared are held on both sides, unless
nothing but what is shared leads to them. -/
structure SameHeld (h h' : Held) : Prop where
  values : ∀ {o p}, S.SameObject o p → (.object o ∈ h.values ↔ .object p ∈ h'.values)
  tables : ∀ {t u}, S.SameTable t u → (t ∈ h.tables ↔ u ∈ h'.tables)
  shared : ∀ {o p}, S.shared o p → .object o ∈ h.values ∨ S.Enclosed o p

variable {S}

/-- Lists of values that correspond have the same objects. -/
theorem mem_iff {l l' : List Value} (h : List.Forall₂ S.SameValue l l') {o p : ObjectId}
    (ho : S.SameObject o p) : .object o ∈ l ↔ .object p ∈ l' := by
  induction h with
  | nil => simp
  | @cons v v' _ _ hv _ ih =>
    rw [List.mem_cons, List.mem_cons, ih]
    refine or_congr ?_ Iff.rfl
    cases hv with
    | object hq =>
      rw [Value.object.injEq, Value.object.injEq]
      exact ho.eq_iff hq
    | scalar hv => constructor <;> rintro rfl <;> cases hv

theorem foreign_or_left (o : ObjectId) :
    (o.index < S.left.objects.size ∧ ∀ p, ¬ S.shared o p) ∨ ∃ p, S.SameObject o p := by
  by_cases hs : ∃ p, S.shared o p
  · obtain ⟨p, hp⟩ := hs
    exact .inr ⟨p, .shared hp⟩
  · rcases Nat.lt_or_ge o.index S.left.objects.size with hi | hi
    · exact .inl ⟨hi, fun p hp => hs ⟨p, hp⟩⟩
    · obtain ⟨k, hk⟩ := Nat.exists_eq_add_of_le hi
      obtain ⟨i⟩ := o
      obtain rfl : i = _ := hk
      exact .inr ⟨_, .made k⟩

theorem foreign_or_right (p : ObjectId) :
    (p.index < S.right.objects.size ∧ ∀ o, ¬ S.shared o p) ∨ ∃ o, S.SameObject o p := by
  by_cases hs : ∃ o, S.shared o p
  · obtain ⟨o, ho⟩ := hs
    exact .inr ⟨o, .shared ho⟩
  · rcases Nat.lt_or_ge p.index S.right.objects.size with hi | hi
    · exact .inl ⟨hi, fun o ho => hs ⟨o, ho⟩⟩
    · obtain ⟨k, hk⟩ := Nat.exists_eq_add_of_le hi
      obtain ⟨i⟩ := p
      obtain rfl : i = _ := hk
      exact .inr ⟨_, .made k⟩

theorem table_left (t : TableId) : t.index < S.left.tables.size ∨ ∃ u, S.SameTable t u := by
  rcases Nat.lt_or_ge t.index S.left.tables.size with hi | hi
  · exact .inl hi
  · obtain ⟨k, hk⟩ := Nat.exists_eq_add_of_le hi
    obtain ⟨i⟩ := t
    obtain rfl : i = _ := hk
    exact .inr ⟨_, .made k⟩

theorem table_right (u : TableId) : u.index < S.right.tables.size ∨ ∃ t, S.SameTable t u := by
  rcases Nat.lt_or_ge u.index S.right.tables.size with hi | hi
  · exact .inl hi
  · obtain ⟨k, hk⟩ := Nat.exists_eq_add_of_le hi
    obtain ⟨i⟩ := u
    obtain rfl : i = _ := hk
    exact .inr ⟨_, .made k⟩

/-- An object that was made since the beginning is held by nothing that was there before. -/
theorem Enclosed.made (k : Nat) :
    S.Enclosed ⟨S.left.objects.size + k⟩ ⟨S.right.objects.size + k⟩ where
  left_object _ hv := absurd (S.left_closed.objects _ _ hv) (Nat.not_lt.2 (Nat.le_add_right _ _))
  left_table _ hv := absurd (S.left_closed.tables _ _ hv) (Nat.not_lt.2 (Nat.le_add_right _ _))
  right_object _ hv := absurd (S.right_closed.objects _ _ hv) (Nat.not_lt.2 (Nat.le_add_right _ _))
  right_table _ hv := absurd (S.right_closed.tables _ _ hv) (Nat.not_lt.2 (Nat.le_add_right _ _))

namespace SameHeld

variable {h h' : Held}

/-- What is held on both sides, and some values more. -/
theorem keep (hh : S.SameHeld h h') {l l' : List Value}
    (hl : ∀ {o p}, S.SameObject o p → (.object o ∈ l ↔ .object p ∈ l')) :
    S.SameHeld (h.keep l) (h'.keep l') where
  values ho := by
    rw [Held.keep, Held.keep, List.mem_append, List.mem_append, hl ho, hh.values ho]
  tables := hh.tables
  shared ho := (hh.shared ho).imp_left (List.mem_append_right _)

theorem keepSame (hh : S.SameHeld h h') {l l' : List Value}
    (hl : List.Forall₂ S.SameValue l l') : S.SameHeld (h.keep l) (h'.keep l') :=
  hh.keep (mem_iff hl)

theorem keepTable (hh : S.SameHeld h h') {t u : TableId} (ht : S.SameTable t u) :
    S.SameHeld (h.keepTable t) (h'.keepTable u) where
  values := hh.values
  tables ht' := by
    rw [Held.keepTable, Held.keepTable, List.mem_cons, List.mem_cons, hh.tables ht',
      ht'.eq_iff ht]
  shared := hh.shared

/-- Two objects that correspond are held on both sides, or nothing from before holds them. -/
theorem held_or_enclosed (hh : S.SameHeld h h') {o p : ObjectId}
    (ho : S.SameObject o p) :
    (.object o ∈ h.values ∧ .object p ∈ h'.values) ∨ S.Enclosed o p := by
  have same := hh.values ho
  cases ho with
  | shared hs => exact (hh.shared hs).imp_left fun hm => ⟨hm, same.1 hm⟩
  | made k => exact .inr (.made k)

end SameHeld

namespace SameWorld

variable {w w' : World} {h h' : Held} {o p : ObjectId}

theorem typeName (hw : S.SameWorld w w') (ho : S.SameObject o p) : w.typeName o = w'.typeName p :=
  (hw.object ho).typeName

theorem text (hw : S.SameWorld w w') {v v' : Value} (hv : S.SameValue v v') :
    w.text v = w'.text v' :=
  hv.text fun _ _ ho => hw.typeName ho

theorem lt_size_iff (hw : S.SameWorld w w') (ho : S.SameObject o p) :
    o.index < w.objects.size ↔ p.index < w'.objects.size := by
  obtain ⟨k, hk, hk'⟩ := hw.size
  cases ho with
  | shared ho =>
    have := S.shared_left ho
    have := S.shared_right ho
    omega
  | made j =>
    dsimp only
    omega

/-! ## Life -/

/-- What is held by itself or in a table corresponds. -/
theorem roots_iff (hw : S.SameWorld w w') (hh : S.SameHeld h h') (ho : S.SameObject o p) :
    .object o ∈ w.rootValues h ↔ .object p ∈ w'.rootValues h' := by
  obtain ⟨left, right⟩ | enclosed := hh.held_or_enclosed ho
  · exact iff_of_true (List.mem_append_left _ left) (List.mem_append_left _ right)
  unfold World.rootValues
  rw [List.mem_append, List.mem_append, hh.values ho]
  refine or_congr Iff.rfl ?_
  rw [List.mem_flatMap, List.mem_flatMap]
  constructor
  · rintro ⟨t, ht, hv⟩
    rcases S.table_left t with hi | ⟨u, hu⟩
    · rw [hw.left_table hi] at hv
      exact absurd hv (enclosed.left_table t)
    · exact ⟨u, (hh.tables hu).1 ht, (mem_iff (hw.table hu).values ho).1 hv⟩
  · rintro ⟨u, hu, hv⟩
    rcases S.table_right u with hi | ⟨t, ht⟩
    · rw [hw.right_table hi] at hv
      exact absurd hv (enclosed.right_table u)
    · exact ⟨t, (hh.tables ht).2 hu, (mem_iff (hw.table ht).values ho).2 hv⟩

/-- An object lives as long as the one that it corresponds to. -/
theorem isAlive_eq (hw : S.SameWorld w w') (hh : S.SameHeld h h') (ho : S.SameObject o p) :
    w.isAlive h o = w'.isAlive h' p := by
  rw [Bool.eq_iff_iff]
  constructor
  · refine World.isAlive_of_related (R := fun p o => S.SameObject o p)
      (fun p o ho => (hw.lt_size_iff ho).1) (fun p o ho => (hw.roots_iff hh ho).1) ?_ ho
    rintro p o q ho hv
    obtain ⟨-, right⟩ | enclosed := hh.held_or_enclosed ho
    · exact .inl (List.mem_append_left _ right)
    · rcases S.foreign_or_left q with ⟨hi, hn⟩ | ⟨r, hr⟩
      · rw [hw.left_object hi hn] at hv
        exact absurd hv (enclosed.left_object hn)
      · exact .inr ⟨r, hr, (mem_iff (hw.object hr).heldValues ho).1 hv⟩
  · refine World.isAlive_of_related (R := S.SameObject)
      (fun o p ho => (hw.lt_size_iff ho).2) (fun o p ho => (hw.roots_iff hh ho).2) ?_ ho
    rintro o p q ho hv
    obtain ⟨left, -⟩ | enclosed := hh.held_or_enclosed ho
    · exact .inl (List.mem_append_left _ left)
    · rcases S.foreign_or_right q with ⟨hi, hn⟩ | ⟨r, hr⟩
      · rw [hw.right_object hi hn] at hv
        exact absurd hv (enclosed.right_object hn)
      · exact .inr ⟨r, hr, (mem_iff (hw.object hr).heldValues ho).2 hv⟩

end SameWorld

end Bxml.Twins
