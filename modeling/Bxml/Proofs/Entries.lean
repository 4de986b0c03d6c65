import Bxml.Entries
import Mathlib.Data.List.Forall2
import Mathlib.Data.Option.Basic

/-!
# Entries that correspond

Two maps correspond if they have the same names in the same order, and what they have under a name
corresponds.

`Entries.Rel` is this relation, and the lemmas beside it say that every operation on maps respects
it: looking up, inserting, making a map of a list.  Two developments rest on them, the twins of
`Twins/Values.lean`, where the values are those of two worlds, and the slots of a bean, which
correspond to the properties that its type declares (`Observing/Idle.lean`).  `map_eq` goes back
from maps that correspond to equal ones.
-/

/-- Of two options that are related, both or neither have a value. -/
theorem Option.Rel.none_or_some {α β : Type*} {R : α → β → Prop} {a : Option α} {b : Option β}
    (h : Option.Rel R a b) : (a = Option.none ∧ b = Option.none) ∨
      ∃ x y, a = Option.some x ∧ b = Option.some y ∧ R x y := by
  cases h with
  | none => exact .inl ⟨rfl, rfl⟩
  | some h => exact .inr ⟨_, _, rfl, rfl, h⟩

namespace Bxml.Entries

universe u v

variable {α : Type u} {β : Type v} {R : α → β → Prop} {m : Entries α} {m' : Entries β}

/-- Whether two maps have the same names in the same order with values that are related. -/
def Rel (R : α → β → Prop) (m : Entries α) (m' : Entries β) : Prop :=
  List.Forall₂ (fun p q => p.1 = q.1 ∧ R p.2 q.2) m.toList m'.toList

namespace Rel

theorem empty : Rel R (.empty : Entries α) (.empty : Entries β) := .nil

theorem keys (h : Rel R m m') : m.keys = m'.keys := by
  rw [Entries.keys, Entries.keys, ← List.forall₂_eq_eq_eq, List.forall₂_map_left_iff,
    List.forall₂_map_right_iff]
  exact h.imp fun _ _ h => h.1

theorem values (h : Rel R m m') : List.Forall₂ R m.values m'.values := by
  rw [Entries.values, Entries.values, List.forall₂_map_left_iff, List.forall₂_map_right_iff]
  exact h.imp fun _ _ h => h.2

theorem contains (h : Rel R m m') (k : String) : m.contains k = m'.contains k := by
  rw [Entries.contains, Entries.contains, h.keys]

theorem isEmpty (h : Rel R m m') : m.isEmpty = m'.isEmpty := by
  unfold Entries.isEmpty
  rw [Bool.eq_iff_iff, List.isEmpty_iff_length_eq_zero, List.isEmpty_iff_length_eq_zero,
    h.length_eq]

theorem get? (h : Rel R m m') (k : String) : Option.Rel R (m.get? k) (m'.get? k) := by
  have lookup {l : List (String × α)} {l' : List (String × β)}
      (h : List.Forall₂ (fun p q => p.1 = q.1 ∧ R p.2 q.2) l l') :
      Option.Rel R (l.lookup k) (l'.lookup k) := by
    induction h with
    | nil => exact .none
    | @cons p q _ _ hpq _ ih =>
      obtain ⟨i, a⟩ := p
      obtain ⟨j, b⟩ := q
      obtain ⟨rfl, hab⟩ := hpq
      by_cases hk : k = i
      · simpa only [List.lookup_cons, hk, beq_self_eq_true] using .some hab
      · simpa only [List.lookup_cons, beq_false_of_ne hk] using ih
  exact lookup h

theorem insert (h : Rel R m m') (k : String) {a : α} {b : β} (hab : R a b) :
    Rel R (m.insert k a) (m'.insert k b) := by
  have list {l : List (String × α)} {l' : List (String × β)}
      (h : List.Forall₂ (fun p q => p.1 = q.1 ∧ R p.2 q.2) l l') :
      List.Forall₂ (fun p q => p.1 = q.1 ∧ R p.2 q.2) (insertList k a l) (insertList k b l') := by
    induction h with
    | nil => exact .cons ⟨rfl, hab⟩ .nil
    | @cons p q _ _ hpq hr ih =>
      obtain ⟨i, x⟩ := p
      obtain ⟨j, y⟩ := q
      obtain ⟨rfl, hxy⟩ := hpq
      by_cases hk : i = k
      · simp only [insertList, hk, if_true]
        exact .cons ⟨rfl, hab⟩ hr
      · simp only [insertList, hk, if_false]
        exact .cons ⟨rfl, hxy⟩ ih
  exact list h

theorem ofList {l : List (String × α)} {l' : List (String × β)}
    (h : List.Forall₂ (fun p q => p.1 = q.1 ∧ R p.2 q.2) l l') :
    Rel R (Entries.ofList l) (Entries.ofList l') := by
  have fold {m : Entries α} {m' : Entries β} (hm : Rel R m m') :
      Rel R (l.foldl (fun m p => m.insert p.1 p.2) m) (l'.foldl (fun m p => m.insert p.1 p.2) m') := by
    induction h generalizing m m' with
    | nil => exact hm
    | cons hpq _ ih =>
      rw [List.foldl_cons, List.foldl_cons, hpq.1]
      exact ih (hm.insert _ hpq.2)
  exact fold empty

/-- Maps that are made from maps that correspond are equal if their values are. -/
theorem map_eq {γ : Type} {f : α → γ} {g : β → γ} (h : Rel R m m')
    (hq : ∀ a b, R a b → f a = g b) : m.map f = m'.map g := by
  have lists : m.toList.map (fun p => (p.1, f p.2)) = m'.toList.map (fun p => (p.1, g p.2)) := by
    unfold Rel at h
    generalize m.toList = l, m'.toList = l' at h
    induction h with
    | nil => rfl
    | cons hpq _ ih => rw [List.map_cons, List.map_cons, ih, hpq.1, hq _ _ hpq.2]
  unfold Entries.map
  simp only [lists]

end Rel

end Bxml.Entries
