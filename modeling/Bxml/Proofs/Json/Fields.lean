import Bxml.Json.Basic
import Mathlib.Data.List.Nodup

/-!
# Fields in any order

The fields of an object are kept in the order of their names, so that it makes no difference in
which order they are stored, as long as no name is stored twice.

`ofFields_perm` is for those who build an object field by field and know what it holds, not in which
order (`Load/Trees.lean`).  It comes of `insert_comm` along the permutation.
-/

namespace Bxml.Json

namespace Fields

/-- Two fields with different names may be stored in either order. -/
theorem insert_comm {k k' : String} (h : k ≠ k') (v v' : Json) (fs : Fields) :
    insert k v (insert k' v' fs) = insert k' v' (insert k v fs) := by
  have total : k < k' ∧ ¬ k' < k ∨ k' < k ∧ ¬ k < k' := by
    by_cases hk : k < k'
    · exact .inl ⟨hk, String.lt_asymm hk⟩
    · refine .inr ⟨?_, hk⟩
      by_contra hk'
      exact h (String.le_antisymm (String.not_lt.1 hk') (String.not_lt.1 hk))
  induction fs with
  | nil => rcases total with ⟨a, b⟩ | ⟨a, b⟩ <;> simp [insert, a, b, h, Ne.symm h]
  | cons p r ih =>
    obtain ⟨q, x⟩ := p
    by_cases hq : k = q
    · subst hq
      rcases total with ⟨a, b⟩ | ⟨a, b⟩ <;> simp [insert, a, b, h, Ne.symm h]
    by_cases hq' : k' = q
    · subst hq'
      rcases total with ⟨a, b⟩ | ⟨a, b⟩ <;> simp [insert, a, b, h, Ne.symm h]
    -- both names are new here: each goes in front of `q` or further back
    rcases total with ⟨a, b⟩ | ⟨a, b⟩
    · have front : k' < q → k < q := String.lt_trans a
      by_cases hk : k < q <;> by_cases hk' : k' < q <;>
        simp only [insert, h, Ne.symm h, hq, hq', hk, hk', a, b, ih, if_true, if_false]
      exact absurd (front hk') hk
    · have front : k < q → k' < q := String.lt_trans a
      by_cases hk : k < q <;> by_cases hk' : k' < q <;>
        simp only [insert, h, Ne.symm h, hq, hq', hk, hk', a, b, ih, if_true, if_false]
      exact absurd (front hk) hk'

/-- The order of the fields makes no difference. -/
theorem ofList_perm {l l' : List (String × Json)} (h : l.Perm l')
    (hn : (l.map Prod.fst).Nodup) : ofList l = ofList l' := by
  have fold (fs : Fields) : l.foldl (fun fs p => insert p.1 p.2 fs) fs =
      l'.foldl (fun fs p => insert p.1 p.2 fs) fs := by
    refine h.foldl_eq' (fun p hp q hq fs => ?_) fs
    by_cases hk : p.1 = q.1
    · rw [List.inj_on_of_nodup_map hn hp hq hk]
    · exact insert_comm (Ne.symm hk) _ _ _
  exact fold []

end Fields

/-- Objects with the same fields in another order are equal. -/
theorem ofFields_perm {l l' : List (String × Json)} (h : l.Perm l')
    (hn : (l.map Prod.fst).Nodup) : ofFields l = ofFields l' :=
  congrArg Json.object (Fields.ofList_perm h hn)

end Bxml.Json
