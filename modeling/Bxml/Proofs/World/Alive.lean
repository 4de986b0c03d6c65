import Bxml.World.Alive
import Mathlib.Logic.Function.Iterate
import Mathlib.Data.Finset.Card
import Mathlib.Tactic.Tauto

/-!
# What is alive

An object that is held from outside lives, and whoever holds more keeps more alive.

* `isAlive_of_within` is the monotonicity, and `isAlive_of_root` the way in: what is held from
  outside lives.
* `isAlive_of_related` carries life along a relation between two worlds.  It rests on
  `isAlive_supported` and `isAlive_of_supported`, by which those who live are the largest set of
  objects each of which is held from outside or by another one of them.

Who lives is found by dropping objects in rounds.  That as many rounds as there are objects are
enough is `survivors_size_succ`, by counting who is left.
-/

namespace Bxml

/-- Whether one holds at least what another does. -/
structure Held.Within (h h' : Held) : Prop where
  values : h.values ⊆ h'.values
  tables : h.tables ⊆ h'.tables

namespace Held.Within

theorem refl (h : Held) : h.Within h := ⟨List.Subset.refl _, List.Subset.refl _⟩

theorem keep {h h' : Held} (hh : h.Within h') (vs : List Value) : h.Within (h'.keep vs) :=
  ⟨List.Subset.trans hh.values (List.subset_append_right _ _), hh.tables⟩

end Held.Within

namespace World

variable {w : World} {h h' : Held} {o : ObjectId}

/-! ## Marks -/

/-- Whether the object with the index `i` is marked. -/
def Marked (marks : Array Bool) (i : Nat) : Prop := marks[i]? = some true

instance (marks : Array Bool) : DecidablePred (Marked marks) :=
  fun i => inferInstanceAs (Decidable (marks[i]? = some true))

theorem getD_eq_true {marks : Array Bool} {i : Nat} :
    marks.getD i false = true ↔ Marked marks i := by
  unfold Marked
  rw [Array.getD_eq_getD_getElem?]
  cases marks[i]? <;> simp

theorem Marked.lt_size {marks : Array Bool} {i : Nat} (h : Marked marks i) : i < marks.size :=
  (Array.getElem?_eq_some_iff.1 h).1

theorem size_mark (marks : Array Bool) (vs : List Value) : (mark marks vs).size = marks.size := by
  unfold mark
  induction vs generalizing marks with
  | nil => rfl
  | cons v vs ih =>
    rw [List.foldl_cons, ih]
    cases v <;> simp

theorem marked_mark {marks : Array Bool} {vs : List Value} {i : Nat} :
    Marked (mark marks vs) i ↔ i < marks.size ∧ (Marked marks i ∨ .object ⟨i⟩ ∈ vs) := by
  induction vs generalizing marks with
  | nil =>
    simp only [List.not_mem_nil, or_false]
    exact ⟨fun h => ⟨Marked.lt_size h, h⟩, And.right⟩
  | cons v vs ih =>
    cases v with
    | object o =>
      obtain ⟨j⟩ := o
      change Marked (mark (marks.setIfInBounds j true) vs) i ↔ _
      rw [ih, List.mem_cons]
      simp only [Array.size_setIfInBounds, Marked, Array.getElem?_setIfInBounds]
      by_cases hj : j = i
      · subst hj
        simp +contextual
      · have hv : Value.object ⟨i⟩ ≠ Value.object ⟨j⟩ := by
          rintro ⟨⟩
          exact hj rfl
        simp [hv, hj]
    | _ =>
      change Marked (mark marks vs) i ↔ _
      rw [ih, List.mem_cons]
      simp

/-- What still is referred to: the roots, and what is held by something that was referred to. -/
theorem marked_referred {alive : Array Bool} {i : Nat} :
    Marked (w.referred h alive) i ↔ i < w.objects.size ∧
      (.object ⟨i⟩ ∈ w.rootValues h ∨
        ∃ j x, w.objects[j]? = some x ∧ Marked alive j ∧ .object ⟨i⟩ ∈ x.heldValues) := by
  have zip : (∃ p ∈ w.objects.toList.zip alive.toList, p.2 = true ∧
      .object ⟨i⟩ ∈ p.1.heldValues) ↔
        ∃ j x, w.objects[j]? = some x ∧ Marked alive j ∧ .object ⟨i⟩ ∈ x.heldValues := by
    simp only [List.mem_iff_getElem?, List.getElem?_zip_eq_some, Array.getElem?_toList, Marked]
    constructor
    · rintro ⟨⟨x, b⟩, ⟨j, hx, hb⟩, rfl, hi⟩
      exact ⟨j, x, hx, hb, hi⟩
    · rintro ⟨j, x, hx, hb, hi⟩
      exact ⟨(x, true), ⟨j, hx, hb⟩, rfl, hi⟩
  have fold (ps : List (Object × Bool)) (marks : Array Bool) :
      Marked (ps.foldl (fun m p => if p.2 then mark m p.1.heldValues else m) marks) i ↔
        i < marks.size ∧ (Marked marks i ∨
          ∃ p ∈ ps, p.2 = true ∧ .object ⟨i⟩ ∈ p.1.heldValues) := by
    induction ps generalizing marks with
    | nil =>
      simp only [List.foldl_nil, List.not_mem_nil, false_and, exists_false, or_false]
      exact ⟨fun h => ⟨Marked.lt_size h, h⟩, And.right⟩
    | cons p ps ih =>
      rw [List.foldl_cons, ih]
      split
      · next hp =>
        rw [size_mark, marked_mark]
        simp only [List.mem_cons, exists_eq_or_imp, hp, true_and]
        tauto
      · next hp =>
        simp only [List.mem_cons, exists_eq_or_imp, hp, Bool.false_eq_true, false_and, false_or]
  unfold referred
  rw [fold, size_mark, marked_mark, zip, Array.size_replicate]
  have none : ¬ Marked (Array.replicate w.objects.size false) i := by
    unfold Marked
    rw [Array.getElem?_replicate]
    split <;> simp
  tauto

theorem size_referred (w : World) (h : Held) (alive : Array Bool) :
    (w.referred h alive).size = w.objects.size := by
  have fold (ps : List (Object × Bool)) (marks : Array Bool) :
      (ps.foldl (fun m p => if p.2 then mark m p.1.heldValues else m) marks).size = marks.size := by
    induction ps generalizing marks with
    | nil => rfl
    | cons p ps ih =>
      rw [List.foldl_cons, ih]
      split
      · exact size_mark _ _
      · rfl
  unfold referred
  rw [fold, size_mark, Array.size_replicate]

/-! ## Peeling -/

/-- Once nothing is dropped any more, nothing will be. -/
theorem peel_eq_iterate (w : World) (h : Held) (n : Nat) (alive : Array Bool) :
    w.peel h n alive = (w.referred h)^[n] alive := by
  induction n generalizing alive with
  | zero => rfl
  | succ n ih =>
    unfold peel
    dsimp only
    split
    · next hs =>
      have fixed : w.referred h alive = alive := by simpa using hs
      exact (Function.iterate_fixed fixed _).symm
    · rw [ih]
      rfl

theorem isAlive_iff : w.isAlive h o = true ↔
    Marked ((w.referred h)^[w.objects.size] (Array.replicate w.objects.size true)) o.index := by
  unfold isAlive
  rw [getD_eq_true, peel_eq_iterate]

theorem lt_size_of_isAlive (ha : w.isAlive h o = true) : o.index < w.objects.size := by
  have size (n : Nat) :
      ((w.referred h)^[n] (Array.replicate w.objects.size true)).size = w.objects.size := by
    cases n with
    | zero => exact Array.size_replicate
    | succ n => rw [Function.iterate_succ_apply', size_referred]
  have hm := (isAlive_iff.1 ha).lt_size
  rwa [size] at hm

/-- Whoever holds more keeps more alive. -/
theorem isAlive_of_within (hh : h.Within h') (ha : w.isAlive h o = true) :
    w.isAlive h' o = true := by
  have roots : w.rootValues h ⊆ w.rootValues h' := by
    intro v hv
    rcases List.mem_append.1 hv with hv | hv
    · exact List.mem_append_left _ (hh.values hv)
    · obtain ⟨t, ht, hv⟩ := List.mem_flatMap.1 hv
      exact List.mem_append_right _ (List.mem_flatMap.2 ⟨t, hh.tables ht, hv⟩)
  have more (n : Nat) : ∀ i, Marked ((w.referred h)^[n] (Array.replicate w.objects.size true)) i →
      Marked ((w.referred h')^[n] (Array.replicate w.objects.size true)) i := by
    induction n with
    | zero => exact fun _ h => h
    | succ n ih =>
      intro i hi
      rw [Function.iterate_succ_apply', marked_referred] at hi ⊢
      obtain ⟨hs, hi | ⟨j, x, hx, hj, hi⟩⟩ := hi
      · exact ⟨hs, .inl (roots hi)⟩
      · exact ⟨hs, .inr ⟨j, x, hx, ih j hj, hi⟩⟩
  exact isAlive_iff.2 (more _ _ (isAlive_iff.1 ha))

/-- What is held, by itself or in a table, lives. -/
theorem isAlive_of_root (hr : .object o ∈ w.rootValues h) (ho : o.index < w.objects.size) :
    w.isAlive h o = true := by
  have marked (n : Nat) :
      Marked ((w.referred h)^[n] (Array.replicate w.objects.size true)) o.index := by
    cases n with
    | zero =>
      change (Array.replicate w.objects.size true)[o.index]? = some true
      rw [Array.getElem?_replicate, if_pos ho]
    | succ n =>
      rw [Function.iterate_succ_apply', marked_referred]
      exact ⟨ho, .inl hr⟩
  exact isAlive_iff.2 (marked _)

theorem isAlive_of_held (hv : .object o ∈ h.values) (ho : o.index < w.objects.size) :
    w.isAlive h o = true :=
  isAlive_of_root (List.mem_append_left _ hv) ho

/-! ## Who keeps an object alive -/

/-- The indices that are marked after some rounds. -/
def survivors (w : World) (h : Held) (n : Nat) : Finset Nat :=
  (Finset.range w.objects.size).filter
    (Marked ((w.referred h)^[n] (Array.replicate w.objects.size true)))

theorem mem_survivors {n i : Nat} : i ∈ w.survivors h n ↔
    i < w.objects.size ∧ Marked ((w.referred h)^[n] (Array.replicate w.objects.size true)) i := by
  rw [survivors, Finset.mem_filter, Finset.mem_range]

/-- Who survives a further round is referred to by a root or by a survivor. -/
theorem mem_survivors_succ {n i : Nat} : i ∈ w.survivors h (n + 1) ↔
    i < w.objects.size ∧ (.object ⟨i⟩ ∈ w.rootValues h ∨
      ∃ j ∈ w.survivors h n, .object ⟨i⟩ ∈ (w.object ⟨j⟩).heldValues) := by
  rw [mem_survivors, Function.iterate_succ_apply', marked_referred]
  constructor
  · rintro ⟨hi, -, hr | ⟨j, x, hx, hm, hv⟩⟩
    · exact ⟨hi, .inl hr⟩
    · have hj : w.object ⟨j⟩ = x := by
        unfold object
        rw [Array.getD_eq_getD_getElem?, hx]
        rfl
      exact ⟨hi, .inr ⟨j, mem_survivors.2 ⟨(Array.getElem?_eq_some_iff.1 hx).1, hm⟩, hj ▸ hv⟩⟩
  · rintro ⟨hi, hr | ⟨j, hj, hv⟩⟩
    · exact ⟨hi, hi, .inl hr⟩
    · obtain ⟨hs, hm⟩ := mem_survivors.1 hj
      refine ⟨hi, hi, .inr ⟨j, w.object ⟨j⟩, ?_, hm, hv⟩⟩
      unfold object
      rw [Array.getD_eq_getD_getElem?, Array.getElem?_eq_getElem hs]
      rfl

theorem survivors_succ_subset (w : World) (h : Held) (n : Nat) :
    w.survivors h (n + 1) ⊆ w.survivors h n := by
  induction n with
  | zero =>
    intro i hi
    obtain ⟨hi, -⟩ := mem_survivors_succ.1 hi
    refine mem_survivors.2 ⟨hi, ?_⟩
    change (Array.replicate w.objects.size true)[i]? = some true
    rw [Array.getElem?_replicate, if_pos hi]
  | succ n ih =>
    intro i hi
    obtain ⟨hi, hr | ⟨j, hj, hv⟩⟩ := mem_survivors_succ.1 hi
    · exact mem_survivors_succ.2 ⟨hi, .inl hr⟩
    · exact mem_survivors_succ.2 ⟨hi, .inr ⟨j, ih hj, hv⟩⟩

/-- As many rounds as there are objects are enough: one more drops nobody. -/
theorem survivors_size_succ (w : World) (h : Held) :
    w.survivors h (w.objects.size + 1) = w.survivors h w.objects.size := by
  have stays {k : Nat} (hk : w.survivors h (k + 1) = w.survivors h k) (j : Nat) :
      w.survivors h (k + j) = w.survivors h k := by
    induction j with
    | zero => rfl
    | succ j ih =>
      ext i
      rw [← hk, Nat.add_succ, mem_survivors_succ, mem_survivors_succ, ih]
  -- every round before the last change drops somebody
  have drops (n : Nat) : (∃ k < n, w.survivors h (k + 1) = w.survivors h k) ∨
      (w.survivors h n).card + n ≤ w.objects.size := by
    induction n with
    | zero =>
      refine .inr ?_
      rw [Nat.add_zero]
      exact (Finset.card_filter_le _ _).trans (Finset.card_range _).le
    | succ n ih =>
      rcases ih with ⟨k, hk, hs⟩ | ih
      · exact .inl ⟨k, Nat.lt_succ_of_lt hk, hs⟩
      · by_cases hs : w.survivors h (n + 1) = w.survivors h n
        · exact .inl ⟨n, Nat.lt_succ_self n, hs⟩
        · have := Finset.card_lt_card ((survivors_succ_subset w h n).ssubset_of_ne hs)
          exact .inr (by omega)
  rcases drops (w.objects.size + 1) with ⟨k, hk, hs⟩ | hc
  · obtain ⟨j, hj⟩ := Nat.exists_eq_add_of_le (Nat.lt_succ_iff.1 hk)
    rw [hj, Nat.add_assoc, stays hs, stays hs]
  · omega

theorem isAlive_iff_mem_survivors :
    w.isAlive h o = true ↔ o.index ∈ w.survivors h w.objects.size := by
  rw [mem_survivors]
  exact ⟨fun ha => ⟨lt_size_of_isAlive ha, isAlive_iff.1 ha⟩, fun ha => isAlive_iff.2 ha.2⟩

/-- What lives is held from outside or by something that lives. -/
theorem isAlive_supported (ha : w.isAlive h o = true) : .object o ∈ w.rootValues h ∨
    ∃ p, w.isAlive h p = true ∧ .object o ∈ (w.object p).heldValues := by
  rw [isAlive_iff_mem_survivors, ← survivors_size_succ, mem_survivors_succ] at ha
  obtain ⟨-, hr | ⟨j, hj, hv⟩⟩ := ha
  · exact .inl hr
  · exact .inr ⟨⟨j⟩, isAlive_iff_mem_survivors.2 hj, hv⟩

/-- Objects live if each of them is held from outside or by one of them. -/
theorem isAlive_of_supported {P : ObjectId → Prop}
    (hp : ∀ o, P o → o.index < w.objects.size ∧ (.object o ∈ w.rootValues h ∨
      ∃ p, P p ∧ .object o ∈ (w.object p).heldValues)) (ho : P o) : w.isAlive h o = true := by
  have mem (n : Nat) : ∀ o, P o → o.index ∈ w.survivors h n := by
    induction n with
    | zero =>
      intro o ho
      refine mem_survivors.2 ⟨(hp o ho).1, ?_⟩
      change (Array.replicate w.objects.size true)[o.index]? = some true
      rw [Array.getElem?_replicate, if_pos (hp o ho).1]
    | succ n ih =>
      intro o ho
      obtain ⟨hs, hr | ⟨p, hp, hv⟩⟩ := hp o ho
      · exact mem_survivors_succ.2 ⟨hs, .inl hr⟩
      · exact mem_survivors_succ.2 ⟨hs, .inr ⟨p.index, ih p hp, hv⟩⟩
  exact isAlive_iff_mem_survivors.2 (mem _ o ho)

/-- Life carries over along a relation that respects who holds what. -/
theorem isAlive_of_related {u : World} {k : Held} {R : ObjectId → ObjectId → Prop}
    (size : ∀ o p, R o p → p.index < u.objects.size → o.index < w.objects.size)
    (root : ∀ o p, R o p → .object p ∈ u.rootValues k → .object o ∈ w.rootValues h)
    (edge : ∀ o p q, R o p → .object p ∈ (u.object q).heldValues →
      .object o ∈ w.rootValues h ∨ ∃ r, R r q ∧ .object o ∈ (w.object r).heldValues)
    {p : ObjectId} (ho : R o p) (ha : u.isAlive k p = true) : w.isAlive h o = true := by
  refine isAlive_of_supported (P := fun o => ∃ p, R o p ∧ u.isAlive k p = true) ?_ ⟨p, ho, ha⟩
  rintro o ⟨p, ho, ha⟩
  refine ⟨size o p ho (lt_size_of_isAlive ha), ?_⟩
  rcases isAlive_supported ha with hr | ⟨q, hq, hv⟩
  · exact .inl (root o p ho hr)
  · rcases edge o p q ho hv with hr | ⟨r, hr, hv⟩
    · exact .inl hr
    · exact .inr ⟨r, ⟨q, hr, hq⟩, hv⟩

end World

end Bxml
