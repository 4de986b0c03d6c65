/-!
# Entries in insertion order

A finite map from names to values that keeps the order in which its names were first stored.
Properties of an object, keys of a dictionary and ids of a document are all entries. The main
statements say what `insert` does to the two views `get?` and `keys`.
-/

namespace Bxml

universe u v

/-- A map from names to values, listed in the order the names were first stored. -/
structure Entries (α : Type u) where
  /-- The entries, oldest name first. -/
  toList : List (String × α)
  nodup : (toList.map Prod.fst).Nodup := by simp

namespace Entries

variable {α : Type u} {β : Type v}

/-- No entries. -/
def empty : Entries α := ⟨[], by simp⟩

instance : Inhabited (Entries α) := ⟨empty⟩

/-- The names, oldest first. -/
def keys (m : Entries α) : List String := m.toList.map Prod.fst

/-- The values, in the order of their names. -/
def values (m : Entries α) : List α := m.toList.map Prod.snd

/-- The value stored under `k`. -/
def get? (m : Entries α) (k : String) : Option α := m.toList.lookup k

/-- Whether `k` is a name of `m`. -/
def contains (m : Entries α) (k : String) : Bool := m.keys.contains k

/-- How many names there are. -/
def size (m : Entries α) : Nat := m.toList.length

/-- Whether there are no entries. -/
def isEmpty (m : Entries α) : Bool := m.toList.isEmpty

/-- Replaces the value of the pair named `k`, or adds a pair at the end. -/
def insertList (k : String) (a : α) : List (String × α) → List (String × α)
  | [] => [(k, a)]
  | p :: r => if p.1 = k then (k, a) :: r else p :: insertList k a r

theorem map_fst_insertList (k : String) (a : α) (l : List (String × α)) :
    (insertList k a l).map Prod.fst =
      if k ∈ l.map Prod.fst then l.map Prod.fst else l.map Prod.fst ++ [k] := by
  induction l with
  | nil => simp [insertList]
  | cons p r ih =>
    by_cases h : p.1 = k
    · simp [insertList, h]
    · have h' : k ≠ p.1 := fun e => h e.symm
      simp only [insertList, h, if_false, List.map_cons, ih, List.mem_cons, h', false_or]
      split <;> simp

/-- Stores `a` under `k`: a known name keeps its place, a new one comes last. -/
def insert (m : Entries α) (k : String) (a : α) : Entries α where
  toList := insertList k a m.toList
  nodup := by
    rw [map_fst_insertList]
    split
    · exact m.nodup
    · next h =>
      refine List.nodup_append.2 ⟨m.nodup, by simp, ?_⟩
      intro x hx y hy e
      rw [List.mem_singleton] at hy
      exact h (hy ▸ e ▸ hx)

/-- The entries of a list of pairs, where a repeated name keeps its first place and takes its last
value. -/
def ofList (l : List (String × α)) : Entries α :=
  l.foldl (fun m p => m.insert p.1 p.2) empty

/-- Applies `f` to every value. -/
def map (f : α → β) (m : Entries α) : Entries β where
  toList := m.toList.map fun p => (p.1, f p.2)
  nodup := by simpa [List.map_map, Function.comp_def] using m.nodup

theorem keys_insert (m : Entries α) (k : String) (a : α) :
    (m.insert k a).keys = if k ∈ m.keys then m.keys else m.keys ++ [k] :=
  map_fst_insertList k a m.toList

theorem lookup_insertList (k j : String) (a : α) (l : List (String × α)) :
    (insertList k a l).lookup j = if j = k then some a else l.lookup j := by
  induction l with
  | nil => by_cases h : j = k <;> simp [insertList, List.lookup_cons, h, beq_eq_false_iff_ne.2]
  | cons p r ih =>
    obtain ⟨q, b⟩ := p
    by_cases h : q = k
    · subst h
      by_cases hj : j = q
      · simp [insertList, hj]
      · simp [insertList, List.lookup_cons, hj, beq_eq_false_iff_ne.2 hj]
    · by_cases hj : j = q
      · subst hj
        simp [insertList, h]
      · simp [insertList, h, List.lookup_cons, beq_eq_false_iff_ne.2 hj, ih]

theorem get?_insert (m : Entries α) (k j : String) (a : α) :
    (m.insert k a).get? j = if j = k then some a else m.get? j :=
  lookup_insertList k j a m.toList

@[simp] theorem get?_insert_self (m : Entries α) (k : String) (a : α) :
    (m.insert k a).get? k = some a := by simp [get?_insert]

theorem get?_insert_of_ne (m : Entries α) {k j : String} (a : α) (h : j ≠ k) :
    (m.insert k a).get? j = m.get? j := by simp [get?_insert, h]

@[simp] theorem get?_empty (k : String) : (empty : Entries α).get? k = none := rfl

theorem isSome_get? (m : Entries α) (k : String) : (m.get? k).isSome = m.contains k := by
  unfold get? contains keys
  induction m.toList with
  | nil => rfl
  | cons p r ih =>
    obtain ⟨q, a⟩ := p
    by_cases h : k = q
    · simp [h]
    · simp only [List.lookup_cons, beq_eq_false_iff_ne.2 h, ih, List.map_cons, List.contains_cons,
        Bool.false_or]

/-- The value of an entry is found under its name. -/
theorem get?_of_mem {m : Entries α} {p : String × α} (h : p ∈ m.toList) :
    m.get? p.1 = some p.2 := by
  have lookup (l : List (String × α)) (hn : (l.map Prod.fst).Nodup) (hp : p ∈ l) :
      l.lookup p.1 = some p.2 := by
    induction l with
    | nil => cases hp
    | cons q r ih =>
      rw [List.map_cons, List.nodup_cons] at hn
      rcases List.mem_cons.1 hp with rfl | hp
      · exact List.lookup_cons_self
      · have hne : p.1 ≠ q.1 := fun e => hn.1 (e ▸ List.mem_map_of_mem hp)
        rw [List.lookup_cons, beq_false_of_ne hne]
        exact ih hn.2 hp
  exact lookup m.toList m.nodup h

end Entries

end Bxml
