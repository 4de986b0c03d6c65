import Bxml.Proofs.World.Lasting
import Bxml.Proofs.World.Places
import Mathlib.Data.List.Basic

/-!
# Tables of ids last

Only the registration of an id changes a table that exists: it adds an entry at the end of it.

`KeepsIds` is the relation between a world and a later one in which no table has changed, and
`table_putId` is the one change of a table.
-/

namespace Bxml

/-- A name that is new comes last. -/
theorem Entries.toList_insert_of_not_mem {α : Type} {m : Entries α} {k : String} {a : α}
    (h : k ∉ m.keys) : (m.insert k a).toList = m.toList ++ [(k, a)] := by
  have append (l : List (String × α)) (h : k ∉ l.map Prod.fst) :
      Entries.insertList k a l = l ++ [(k, a)] := by
    induction l with
    | nil => rfl
    | cons p r ih =>
      rw [List.map_cons, List.mem_cons, not_or] at h
      rw [Entries.insertList, if_neg (Ne.symm h.1), ih h.2, List.cons_append]
  exact append m.toList h

namespace World

variable {w v : World} {t : TableId}

/-- Whether all tables are there still, with the same ids and the same values. -/
def KeepsIds (w v : World) : Prop := w.tables.toList <+: v.tables.toList

theorem keepsIds_of_eq (h : v.tables = w.tables) : KeepsIds w v := by
  refine ⟨[], ?_⟩
  rw [List.append_nil, h]

theorem assign_tables {o : ObjectId} {name : String} {a : Value} {x : Written}
    (h : w.assign o name a = .ok x) : x.world.tables = w.tables := by
  obtain ⟨f, hf⟩ := exists_modify_of_assign h
  rw [hf]
  rfl

instance : Lasting KeepsIds where
  refl w := List.prefix_rfl
  trans h h' := List.IsPrefix.trans h h'
  emit _ _ := keepsIds_of_eq rfl
  exhaust _ := keepsIds_of_eq rfl
  alloc _ _ := keepsIds_of_eq rfl
  allocTable w ids := by
    change w.tables.toList <+: (w.tables.push ids).toList
    rw [Array.toList_push]
    exact List.prefix_append _ _
  assign h := keepsIds_of_eq (assign_tables h)
  append _ _ _ := keepsIds_of_eq rfl
  subscribe _ _ _ _ := keepsIds_of_eq rfl
  addListener _ _ _ _ := keepsIds_of_eq rfl

theorem KeepsIds.size_le (h : KeepsIds w v) : w.tables.size ≤ v.tables.size := by
  simpa using h.length_le

theorem KeepsIds.table_eq (h : KeepsIds w v) (ht : t.index < w.tables.size) :
    v.table t = w.table t := by
  have hv : t.index < v.tables.size := Nat.lt_of_lt_of_le ht h.size_le
  have hi : w.tables.toList.get ⟨t.index, by simpa using ht⟩ =
      v.tables.toList.get ⟨t.index, by simpa using hv⟩ := h.getElem _
  unfold table
  rw [Array.getD, Array.getD, dif_pos hv, dif_pos ht]
  simpa using hi.symm

theorem objects_putId {id : String} {a : Value} (h : w.putId t id a = .ok v) :
    v.objects = w.objects := by
  rw [(putId_eq h).2]

theorem tables_size_putId {id : String} {a : Value} (h : w.putId t id a = .ok v) :
    v.tables.size = w.tables.size := by
  rw [(putId_eq h).2]
  exact Array.size_modify

theorem table_putId_eq_insert {id : String} {a : Value} (ht : t.index < w.tables.size)
    (h : w.putId t id a = .ok v) : v.table t = (w.table t).insert id a := by
  obtain ⟨-, rfl⟩ := putId_eq h
  simp [table, Array.getElem_modify, ht]

/-- An id is registered at the end of its table. -/
theorem table_putId {id : String} {a : Value} (ht : t.index < w.tables.size)
    (h : w.putId t id a = .ok v) : (v.table t).toList = (w.table t).toList ++ [(id, a)] := by
  rw [table_putId_eq_insert ht h, Entries.toList_insert_of_not_mem (putId_eq h).1]

theorem table_putId_of_ne {t' : TableId} {id : String} {a : Value} (hn : t' ≠ t)
    (h : w.putId t' id a = .ok v) : v.table t = w.table t := by
  have hi : t'.index ≠ t.index := fun h => hn (by cases t'; cases t; simp_all)
  obtain ⟨-, rfl⟩ := putId_eq h
  simp [table, Array.getD_getElem?, Array.getElem?_modify, hi]

end World

end Bxml
