import Bxml.Dump
import Bxml.Proofs.Json.Ordered
import Bxml.Proofs.World.Altering
import Mathlib.Data.Finset.Card

/-!
# Unfolded objects

Objects refer to each other as they like, in circles too.  Rendering a value ends all the same: an
object is rendered inside of fewer than all objects, as those on the way to it are in progress.  What
is in progress is as before when a value is rendered, so that what stands beside it makes no
difference, and the result is the only unfolding of the objects that stops at an object inside
itself.

* `toJson_unfolds` is the result: the rendering ends (it is defined with a number of nested objects,
  and the number of all objects is enough), it is an unfolding, and the path is as before.
* `IsUnfolding` says what an unfolding is, for all paths at once, and `IsUnfolding.eq` that there is
  only one: by induction on the objects that are not on the path (`apart`).
* `render_run` is the induction for the rendering itself.  `toJsonIn_scalar` and
  `toJsonIn_of_not_mem` are its equations, for those who render values that they know
  (`World/Dictionaries.lean`).
-/

namespace Bxml.World

variable {w : World} {path : List ObjectId} {o : ObjectId}

/-! ## One object -/

/-- The values that are rendered inside of an object. -/
def contents (w : World) (o : ObjectId) : List Value :=
  match (w.object o).sequence? with
  | some items => items
  | none => (w.object o).propertyNames.map (w.propertyValue o)

/-- An object in full, where `f` gives the values inside it. -/
def objectJson (w : World) (o : ObjectId) (f : Value → Json) : Json :=
  match (w.object o).sequence? with
  | some items => .array (items.map f)
  | none =>
    .ofFields ((typeField, .string (w.typeName o)) ::
      (w.object o).propertyNames.map fun name => (name, f (w.propertyValue o name)))

/-- Whatever leaves the state as it is for each of some things does so for all of them. -/
theorem mapM_run {σ α β : Type} {f : α → StateT σ Option β} {g : α → β} {s : σ} {l : List α}
    (h : ∀ a ∈ l, (f a).run s = some (g a, s)) : (l.mapM f).run s = some (l.map g, s) := by
  induction l with
  | nil => rfl
  | cons a r ih =>
    have first := h a List.mem_cons_self
    have rest := ih fun b hb => h b (List.mem_cons_of_mem a hb)
    rw [List.mapM_cons, StateT.run_bind, first]
    change ((r.mapM f >>= fun bs => pure (g a :: bs)).run s) = _
    rw [StateT.run_bind, rest]
    rfl

theorem render_of_mem (n : Nat) (ho : o ∈ path) :
    (w.render (n + 1) (.object o)).run path = some (w.referenceTo o, path) := by
  rw [render]
  simp [ho]

theorem render_scalar (n : Nat) {v : Value} (hv : v.object? = none) :
    (w.render n v).run path = some (scalarJson v, path) := by
  cases v with
  | object o => cases hv
  | _ => cases n <;> rfl

/-- An object that is not in progress is rendered in full, if the values inside it are rendered while
it is in progress. -/
theorem render_of_not_mem {n : Nat} {f : Value → Json} (ho : o ∉ path)
    (h : ∀ v ∈ w.contents o, (w.render n v).run (o :: path) = some (f v, o :: path)) :
    (w.render (n + 1) (.object o)).run path = some (w.objectJson o f, path) := by
  rw [render]
  unfold contents at h
  unfold objectJson
  cases hs : (w.object o).sequence? with
  | some items =>
    rw [hs] at h
    simp [ho, mapM_run h]
  | none =>
    rw [hs] at h
    have fields : ((w.object o).propertyNames.mapM fun name =>
          Prod.mk name <$> w.render n (w.propertyValue o name)).run (o :: path) =
        some ((w.object o).propertyNames.map fun name => (name, f (w.propertyValue o name)),
          o :: path) := by
      refine mapM_run fun name hn => ?_
      simp [h _ (List.mem_map_of_mem hn)]
    simp [ho, fields]

/-! ## Objects inside each other -/

/-- The objects that are not on a path. -/
def apart (w : World) (path : List ObjectId) : Finset Nat :=
  (Finset.range w.objects.size).filter fun i => ⟨i⟩ ∉ path

theorem card_apart_le (w : World) (path : List ObjectId) :
    (w.apart path).card ≤ w.objects.size :=
  (Finset.card_filter_le _ _).trans (Finset.card_range _).le

theorem card_apart_lt (ho : o ∉ path) (inside : o.index < w.objects.size) :
    (w.apart (o :: path)).card < (w.apart path).card := by
  refine Finset.card_lt_card (Finset.ssubset_iff_of_subset ?_ |>.2 ⟨o.index, ?_, ?_⟩)
  · intro i hi
    obtain ⟨hs, hp⟩ := Finset.mem_filter.1 hi
    exact Finset.mem_filter.2 ⟨hs, fun h => hp (List.mem_cons_of_mem o h)⟩
  · exact Finset.mem_filter.2 ⟨Finset.mem_range.2 inside, ho⟩
  · exact fun hi => (Finset.mem_filter.1 hi).2 List.mem_cons_self

/-- Nothing is inside of an object that does not exist. -/
theorem lt_size_of_mem_contents {v : Value} (hv : v ∈ w.contents o) : o.index < w.objects.size := by
  by_contra out
  unfold contents at hv
  rw [object_eq_default out] at hv
  cases hv

/-- The rendering of a value ends inside of as many objects as are not in progress, and what is in
progress is then as before. -/
theorem render_run {n : Nat} (hn : (w.apart path).card < n) (v : Value) :
    (w.render n v).run path = some (w.toJsonIn path v, path) := by
  induction hk : (w.apart path).card using Nat.strong_induction_on generalizing path v n with
  | _ k ih =>
    subst hk
    -- One result for all bounds that suffice, the bound of `toJsonIn` among them.
    suffices ends : ∃ json, ∀ m, (w.apart path).card ≤ m →
        (w.render (m + 1) v).run path = some (json, path) by
      obtain ⟨json, run⟩ := ends
      obtain ⟨n, rfl⟩ := Nat.exists_eq_add_one_of_ne_zero (Nat.ne_zero_of_lt hn)
      rw [toJsonIn, run n (Nat.le_of_lt_succ hn), run _ (w.card_apart_le path)]
      rfl
    cases hv : v.object? with
    | none => exact ⟨_, fun m _ => render_scalar (m + 1) hv⟩
    | some o =>
      obtain rfl := Value.object?_eq_some.1 hv
      by_cases ho : o ∈ path
      · exact ⟨_, fun m _ => render_of_mem m ho⟩
      · refine ⟨w.objectJson o (w.toJsonIn (o :: path)), fun m hm => ?_⟩
        refine render_of_not_mem ho fun v hv => ?_
        have fewer := card_apart_lt ho (lt_size_of_mem_contents hv)
        exact ih _ fewer (Nat.lt_of_lt_of_le fewer hm) v rfl

theorem toJsonIn_scalar {v : Value} (hv : v.object? = none) :
    w.toJsonIn path v = scalarJson v := by
  simp [toJsonIn, render_scalar _ hv]

theorem toJsonIn_of_mem (ho : o ∈ path) :
    w.toJsonIn path (.object o) = w.referenceTo o := by
  simp [toJsonIn, render_of_mem _ ho]

/-- Every value inside an object is rendered as if it were alone there. -/
theorem toJsonIn_of_not_mem (ho : o ∉ path) :
    w.toJsonIn path (.object o) = w.objectJson o (w.toJsonIn (o :: path)) := by
  have run : (w.render (w.objects.size + 1) (.object o)).run path =
      some (w.objectJson o (w.toJsonIn (o :: path)), path) := by
    refine render_of_not_mem ho fun v hv => render_run ?_ v
    exact Nat.lt_of_lt_of_le (card_apart_lt ho (lt_size_of_mem_contents hv)) (w.card_apart_le path)
  rw [toJsonIn, run]
  rfl

/-! ## The unfolding -/

/-- Whether `U path v` is the value `v` inside the objects of `path`, for all of these: an object
that is one of them is a reference, any other object is in full, and a value inside it is inside the
objects of `path` and it. -/
structure IsUnfolding (w : World) (U : List ObjectId → Value → Json) : Prop where
  scalar (path : List ObjectId) {v : Value} (hv : v.object? = none) : U path v = scalarJson v
  reference {path : List ObjectId} {o : ObjectId} (ho : o ∈ path) :
    U path (.object o) = .object [(referenceField, .string (w.typeName o))]
  list {path : List ObjectId} {o : ObjectId} (ho : o ∉ path) {items : List Value}
    (hl : (w.object o).content = .list items) :
    U path (.object o) = .array (items.map (U (o :: path)))
  /-- A property named as the field of the type takes its place. -/
  other {path : List ObjectId} {o : ObjectId} (ho : o ∉ path)
    (hl : ∀ items, (w.object o).content ≠ .list items) :
    ∃ fs, U path (.object o) = .object fs ∧ fs.Pairwise (fun p q => p.1 < q.1) ∧
      (∀ name ∈ (w.object o).propertyNames, ∃ v, (w.object o).getProperty name = .ok v ∧
        Json.Fields.get? fs name = some (U (o :: path) v)) ∧
      ∀ name ∉ (w.object o).propertyNames, Json.Fields.get? fs name =
        if name = typeField then some (.string (w.typeName o)) else none

/-- The properties that an object names can be read. -/
theorem getProperty_of_mem_propertyNames {name : String} (h : name ∈ (w.object o).propertyNames) :
    (w.object o).getProperty name = .ok (w.propertyValue o name) := by
  unfold propertyValue
  unfold Object.propertyNames at h
  unfold Object.getProperty
  cases hc : (w.object o).content with
  | bean b =>
    rw [hc] at h
    obtain ⟨⟨k, s⟩, hs, rfl⟩ := List.mem_map.1 h
    obtain ⟨hs, hv⟩ := List.mem_filter.1 hs
    obtain ⟨v, hv⟩ := Option.isSome_iff_exists.1 hv
    have found : b.slots.get? k = some s := Entries.get?_of_mem hs
    simp [found, show s.value? = some v from hv, Except.toOption]
  | dictionary d => simp [Except.toOption]
  | list items =>
    rw [hc] at h
    cases h

theorem sequence?_eq_none (hl : ∀ items, (w.object o).content ≠ .list items) :
    (w.object o).sequence? = none := by
  unfold Object.sequence?
  cases hc : (w.object o).content with
  | list items => exact absurd hc (hl items)
  | _ => rfl

theorem isUnfolding_toJsonIn (w : World) : w.IsUnfolding w.toJsonIn where
  scalar _ _ hv := toJsonIn_scalar hv
  reference ho := toJsonIn_of_mem ho
  list {path o} ho {items} hl := by
    have hs : (w.object o).sequence? = some items := by simp [Object.sequence?, hl]
    rw [toJsonIn_of_not_mem ho, objectJson, hs]
  other {path o} ho hl := by
    rw [toJsonIn_of_not_mem ho, objectJson, sequence?_eq_none hl]
    refine ⟨_, rfl, Json.Fields.sorted_ofList _, fun name hn => ?_, fun name hn => ?_⟩
    · refine ⟨_, getProperty_of_mem_propertyNames hn, ?_⟩
      exact (Json.Fields.get?_foldl_insert _ _ _ name).trans (if_pos hn)
    · refine (Json.Fields.get?_foldl_insert _ _ _ name).trans ?_
      rw [if_neg hn, Json.Fields.get?_insert]
      rfl

/-- There is no other unfolding, since paths do not get longer for ever. -/
theorem IsUnfolding.eq {U : List ObjectId → Value → Json} (h : w.IsUnfolding U) :
    U = w.toJsonIn := by
  have same := w.isUnfolding_toJsonIn
  funext path v
  induction hn : (w.apart path).card using Nat.strong_induction_on generalizing path v with
  | _ n ih =>
    subst hn
    cases hv : v.object? with
    | none => rw [h.scalar path hv, same.scalar path hv]
    | some o =>
      obtain rfl := Value.object?_eq_some.1 hv
      by_cases ho : o ∈ path
      · rw [h.reference ho, same.reference ho]
      have deeper (inside : o.index < w.objects.size) : U (o :: path) = w.toJsonIn (o :: path) :=
        funext fun v => ih _ (card_apart_lt ho inside) _ v rfl
      by_cases hl : ∃ items, (w.object o).content = .list items
      · obtain ⟨items, hl⟩ := hl
        have inside : o.index < w.objects.size := by
          by_contra out
          rw [object_eq_default out] at hl
          cases hl
        rw [h.list ho hl, same.list ho hl, deeper inside]
      · obtain ⟨fs, hf, sorted, values, others⟩ := h.other ho (not_exists.1 hl)
        obtain ⟨gs, hg, sorted', values', others'⟩ := same.other ho (not_exists.1 hl)
        rw [hf, hg, Json.Fields.eq_of_get?_eq sorted sorted' fun name => ?_]
        by_cases hn : name ∈ (w.object o).propertyNames
        · have inside : o.index < w.objects.size := by
            by_contra out
            rw [object_eq_default out] at hn
            cases hn
          obtain ⟨v, hv, ht⟩ := values name hn
          obtain ⟨v', hv', ht'⟩ := values' name hn
          rw [ht, ht', deeper inside, Except.ok.inj (hv.symm.trans hv')]
        · rw [others name hn, others' name hn]

/-- However objects refer to each other, rendering a value ends, inside of as many objects as are not
in progress, with the one unfolding of it that stops at an object inside itself; and what is in
progress is then as before. -/
theorem toJson_unfolds (w : World) : ∃ U, w.IsUnfolding U ∧ (∀ U', w.IsUnfolding U' → U' = U) ∧
    (∀ path v n, (w.apart path).card < n → (w.render n v).run path = some (U path v, path)) ∧
      ∀ v, w.toJson v = U [] v :=
  ⟨w.toJsonIn, w.isUnfolding_toJsonIn, fun _ h => h.eq, fun _ v _ hn => render_run hn v,
    fun _ => rfl⟩

end Bxml.World
