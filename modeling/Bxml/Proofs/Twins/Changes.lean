import Bxml.Bundle.Basic
import Bxml.Proofs.Twins.Ops
import Bxml.Types.Factory

/-!
# Twin changes

Every change that a load makes to a world, and everything that it reads there, is the same for worlds
that have come about by the same steps.

There is one lemma for each way to change or to read a world, named after it, in the namespace of
`SameWorld`.  Changing an existing object and making one are the two that carry the rest (`modify`,
`alloc`): a change keeps the correspondence of states, and a new pair of objects extends it.
-/

namespace Bxml

namespace World

/-- The objects after one of them, if it exists, is changed. -/
theorem object_modify_eq_ite (w : World) (o q : ObjectId) (f : Object → Object) :
    (w.modify o f).object q =
      if q = o ∧ o.index < w.objects.size then f (w.object o) else w.object q := by
  unfold object modify
  simp only [Array.getD_eq_getD_getElem?, Array.getElem?_modify]
  by_cases hq : q = o
  · subst hq
    by_cases hi : q.index < w.objects.size
    · simp [hi]
    · simp [hi]
  · have hi : ¬ o.index = q.index := fun hi => hq (by cases o; cases q; simp_all)
    simp [hq, hi]

/-- The tables after one of them, if it exists, is changed. -/
theorem table_modify (w : World) (t u : TableId) (f : Entries Value → Entries Value) :
    ({ w with tables := w.tables.modify t.index f } : World).table u =
      if u = t ∧ t.index < w.tables.size then f (w.table t) else w.table u := by
  unfold table
  simp only [Array.getD_eq_getD_getElem?, Array.getElem?_modify]
  by_cases hu : u = t
  · subst hu
    by_cases hi : u.index < w.tables.size
    · simp [hi]
    · simp [hi]
  · have hi : ¬ t.index = u.index := fun hi => hu (by cases t; cases u; simp_all)
    simp [hu, hi]

theorem object_alloc (w : World) (x : Object) (q : ObjectId) :
    (w.alloc x).2.object q = if q.index = w.objects.size then x else w.object q := by
  unfold object alloc
  simp only [Array.getD_eq_getD_getElem?, Array.getElem?_push]
  split
  · rfl
  · rfl

theorem table_allocTable (w : World) (ids : Entries Value) (t : TableId) :
    (w.allocTable ids).2.table t = if t.index = w.tables.size then ids else w.table t := by
  unfold table allocTable
  simp only [Array.getD_eq_getD_getElem?, Array.getElem?_push]
  split
  · rfl
  · rfl

end World

namespace Twins

variable {S : Twins}

namespace SameWorld

variable {w w' : World} {o p : ObjectId} {t u : TableId}

/-! ## Objects -/

/-- An object and the one it corresponds to are changed in the same way. -/
theorem modify (hw : S.SameWorld w w') (ho : S.SameObject o p) {f g : Object → Object}
    (hf : S.SameState (f (w.object o)) (g (w'.object p))) :
    S.SameWorld (w.modify o f) (w'.modify p g) where
  size := by
    simp only [World.modify, Array.size_modify]
    exact hw.size
  tablesSize := hw.tablesSize
  object {q r} hq := by
    have both := and_congr (hq.eq_iff ho) (hw.lt_size_iff ho)
    rw [World.object_modify_eq_ite, World.object_modify_eq_ite]
    by_cases h : q = o ∧ o.index < w.objects.size
    · rw [if_pos h, if_pos (both.1 h)]
      exact hf
    · rw [if_neg h, if_neg fun h' => h (both.2 h')]
      exact hw.object hq
  table := hw.table
  left_object {q} hi hn := by
    rw [World.object_modify_eq_ite, if_neg]
    · exact hw.left_object hi hn
    · rintro ⟨rfl, -⟩
      cases ho with
      | shared ho => exact hn _ ho
      | made k => exact Nat.not_lt.2 (Nat.le_add_right _ _) hi
  right_object {q} hi hn := by
    rw [World.object_modify_eq_ite, if_neg]
    · exact hw.right_object hi hn
    · rintro ⟨rfl, -⟩
      cases ho with
      | shared ho => exact hn _ ho
      | made k => exact Nat.not_lt.2 (Nat.le_add_right _ _) hi
  left_table := hw.left_table
  right_table := hw.right_table

/-- Two objects are made. -/
theorem alloc (hw : S.SameWorld w w') {x x' : Object} (hx : S.SameState x x') :
    S.SameObject (w.alloc x).1 (w'.alloc x').1 ∧ S.SameWorld (w.alloc x).2 (w'.alloc x').2 := by
  obtain ⟨k, hk, hk'⟩ := hw.size
  have made : S.SameObject ⟨w.objects.size⟩ ⟨w'.objects.size⟩ := by
    rw [hk, hk']
    exact .made k
  have other (q r : ObjectId) (hq : S.SameObject q r) :
      q.index = w.objects.size ↔ r.index = w'.objects.size := by
    have := hq.eq_iff made
    obtain ⟨q⟩ := q
    obtain ⟨r⟩ := r
    simpa using this
  refine ⟨made, ?_⟩
  constructor
  · exact ⟨k + 1, by simp [World.alloc, hk, Nat.add_assoc], by simp [World.alloc, hk', Nat.add_assoc]⟩
  · exact hw.tablesSize
  · intro q r hq
    rw [World.object_alloc, World.object_alloc]
    by_cases h : q.index = w.objects.size
    · rw [if_pos h, if_pos ((other q r hq).1 h)]
      exact hx
    · rw [if_neg h, if_neg fun h' => h ((other q r hq).2 h')]
      exact hw.object hq
  · exact hw.table
  · intro q hi hn
    rw [World.object_alloc, if_neg (by omega)]
    exact hw.left_object hi hn
  · intro q hi hn
    rw [World.object_alloc, if_neg (by omega)]
    exact hw.right_object hi hn
  · exact hw.left_table
  · exact hw.right_table

theorem append (hw : S.SameWorld w w') (ho : S.SameObject o p) {v v' : Value}
    (hv : S.SameValue v v') : S.SameWorld (w.append o v) (w'.append p v') := by
  refine hw.modify ho ?_
  have state := hw.object ho
  generalize w.object o = x at state
  generalize w'.object p = x' at state
  obtain ⟨c, l⟩ := x
  obtain ⟨c', l'⟩ := x'
  obtain ⟨hc, hl⟩ := state
  cases hc with
  | list h => exact ⟨.list (List.rel_append h (.cons hv .nil)), hl⟩
  | bean h => exact ⟨.bean h, hl⟩
  | dictionary h => exact ⟨.dictionary h, hl⟩

theorem subscribe (hw : S.SameWorld w w') (ho : S.SameObject o p) (name : String)
    {s s' : Subscriber} (hs : S.SameSubscriber s s') :
    S.SameWorld (w.subscribe o name s) (w'.subscribe p name s') :=
  hw.modify ho
    ⟨(hw.object ho).content, List.rel_append (hw.object ho).subscribers (.cons ⟨rfl, hs⟩ .nil)⟩

theorem addListener (hw : S.SameWorld w w') (ho : S.SameObject o p) (name : String)
    {x x' : Listener} (hx : S.SameListener x x') :
    S.SameWorld (w.addListener o name x) (w'.addListener p name x') := by
  refine hw.modify ho ?_
  have state := hw.object ho
  generalize w.object o = y at state
  generalize w'.object p = y' at state
  obtain ⟨c, l⟩ := y
  obtain ⟨c', l'⟩ := y'
  obtain ⟨hc, hl⟩ := state
  cases hc with
  | list h => exact ⟨.list h, hl⟩
  | dictionary h => exact ⟨.dictionary h, hl⟩
  | @bean b b' h =>
    dsimp only
    obtain ⟨hs, hs'⟩ | ⟨s, s', hs, hs', same⟩ := (h.slots.get? name).none_or_some
    · rw [hs, hs']
      exact ⟨.bean h, hl⟩
    · rw [hs, hs']
      cases same with
      | @listeners list list' same =>
        have more : S.SameSlot (.listeners { list with listeners := list.listeners ++ [x] })
            (.listeners { list' with listeners := list'.listeners ++ [x'] }) :=
          .listeners ⟨same.interface, List.rel_append same.listeners (.cons hx .nil)⟩
        exact ⟨.bean ⟨h.typeName, h.defaultProperty, h.idProperty, h.slots.insert name more⟩, hl⟩
      | _ => exact ⟨.bean h, hl⟩

/-- What two writes of a property do. -/
structure SameWritten (S : Twins) (x x' : World.Written) : Prop where
  world : S.SameWorld x.world x'.world
  previous : Option.Rel S.SameValue x.previous x'.previous

/-- Whether somebody is told depends on the value that was there before. -/
theorem previous {a a' v v' : Value} (ha : S.SameValue a a') (hv : S.SameValue v v') :
    Option.Rel S.SameValue (if a == v then none else some a) (if a' == v' then none else some a') := by
  rw [ha.beq_eq hv]
  split
  · exact .none
  · exact .some ha

theorem assign (hw : S.SameWorld w w') (ho : S.SameObject o p) (name : String) {v v' : Value}
    (hv : S.SameValue v v') :
    SameResult (SameWritten S) (w.assign o name v) (w'.assign p name v') := by
  have state := hw.object ho
  have content := state.content
  unfold World.assign
  generalize hc : (w.object o).content = c at content
  generalize hc' : (w'.object p).content = c' at content
  cases content with
  | @bean b b' h =>
    dsimp only
    obtain ⟨hs, hs'⟩ | ⟨s, s', hs, hs', same⟩ := (h.slots.get? name).none_or_some
    · rw [hs, hs', h.typeName]
      exact .error _
    · rw [hs, hs']
      cases same with
      | @writable t a a' same =>
        dsimp only
        obtain ⟨u, u', hu, hu', hs⟩ | ⟨e, hu, hu'⟩ :=
          (hv.coerce (fun _ _ => hw.typeName) t name).ok_or_error
        · rw [hu, hu']
          exact .ok ⟨hw.modify ho ⟨.bean ⟨h.typeName, h.defaultProperty, h.idProperty,
            h.slots.insert name (.writable t hs)⟩, state.subscribers⟩, previous same hs⟩
        · rw [hu, hu']
          exact .error e
      | _ =>
        rw [h.typeName]
        exact .error _
  | @dictionary d d' h =>
    refine .ok ⟨hw.modify ho ⟨.dictionary ⟨h.typeName, h.entries.insert name hv, h.hook⟩,
      state.subscribers⟩, ?_⟩
    unfold World.storeKey
    dsimp only
    obtain ⟨hs, hs'⟩ | ⟨a, a', hs, hs', same⟩ := (h.entries.get? name).none_or_some
    · rw [hs, hs']
      exact .some .null
    · rw [hs, hs']
      exact previous same hv
  | @list items items' h =>
    dsimp only
    rw [SameState.index?_eq h.length_eq]
    cases Object.index? items' name with
    | none => exact .error _
    | some i =>
      refine .ok ⟨hw.modify ho ⟨.list ?_, state.subscribers⟩, .none⟩
      clear hc hc'
      induction h generalizing i with
      | nil => exact .nil
      | cons h hr ih =>
        cases i with
        | zero => exact .cons hv hr
        | succ i => exact .cons h (ih i)

/-! ## Tables -/

theorem allocTable (hw : S.SameWorld w w') :
    S.SameTable (w.allocTable .empty).1 (w'.allocTable .empty).1 ∧
      S.SameWorld (w.allocTable .empty).2 (w'.allocTable .empty).2 := by
  obtain ⟨k, hk, hk'⟩ := hw.tablesSize
  have made : S.SameTable ⟨w.tables.size⟩ ⟨w'.tables.size⟩ := by
    rw [hk, hk']
    exact .made k
  have other (q r : TableId) (hq : S.SameTable q r) :
      q.index = w.tables.size ↔ r.index = w'.tables.size := by
    have := hq.eq_iff made
    obtain ⟨q⟩ := q
    obtain ⟨r⟩ := r
    simpa using this
  refine ⟨made, ?_⟩
  constructor
  · exact hw.size
  · exact ⟨k + 1, by simp [World.allocTable, hk, Nat.add_assoc],
      by simp [World.allocTable, hk', Nat.add_assoc]⟩
  · exact hw.object
  · intro q r hq
    rw [World.table_allocTable, World.table_allocTable]
    by_cases h : q.index = w.tables.size
    · rw [if_pos h, if_pos ((other q r hq).1 h)]
      exact .empty
    · rw [if_neg h, if_neg fun h' => h ((other q r hq).2 h')]
      exact hw.table hq
  · exact hw.left_object
  · exact hw.right_object
  · intro q hi
    rw [World.table_allocTable, if_neg (by omega)]
    exact hw.left_table hi
  · intro q hi
    rw [World.table_allocTable, if_neg (by omega)]
    exact hw.right_table hi

theorem putId (hw : S.SameWorld w w') (ht : S.SameTable t u) (id : String) {v v' : Value}
    (hv : S.SameValue v v') : SameResult S.SameWorld (w.putId t id v) (w'.putId u id v') := by
  have ids := hw.table ht
  have range : t.index < w.tables.size ↔ u.index < w'.tables.size := by
    obtain ⟨k, hk, hk'⟩ := hw.tablesSize
    cases ht
    dsimp only
    omega
  unfold World.putId
  rw [ids.contains]
  split
  · exact .error _
  refine .ok ⟨hw.size, ?_, hw.object, ?_, hw.left_object, hw.right_object, ?_, ?_⟩
  · simpa only [Array.size_modify] using hw.tablesSize
  · intro q r hq
    have both := and_congr (hq.eq_iff ht) range
    rw [World.table_modify, World.table_modify]
    by_cases h : q = t ∧ t.index < w.tables.size
    · rw [if_pos h, if_pos (both.1 h)]
      exact ids.insert id hv
    · rw [if_neg h, if_neg fun h' => h (both.2 h')]
      exact hw.table hq
  · intro q hi
    rw [World.table_modify, if_neg]
    · exact hw.left_table hi
    · rintro ⟨rfl, -⟩
      cases ht
      exact Nat.not_lt.2 (Nat.le_add_right _ _) hi
  · intro q hi
    rw [World.table_modify, if_neg]
    · exact hw.right_table hi
    · rintro ⟨rfl, -⟩
      cases ht
      exact Nat.not_lt.2 (Nat.le_add_right _ _) hi

/-! ## Paths -/

theorem follow (hw : S.SameWorld w w') (segments : List String) {v v' : Value}
    (hv : S.SameValue v v') :
    SameResult (Option.Rel S.SameValue) (w.follow v segments) (w'.follow v' segments) := by
  induction segments generalizing v v' with
  | nil => 
    rw [World.follow, World.follow]
    exact .ok (.some hv)
  | cons s r ih =>
    cases hv with
    | object ho =>
      rw [World.follow, World.follow, (hw.object ho).hasProperty]
      split
      · obtain ⟨a, b, ha, hb, same⟩ | ⟨e, ha, hb⟩ := ((hw.object ho).getProperty s).ok_or_error
        · rw [ha, hb]
          exact ih same
        · rw [ha, hb]
          exact .error e
      · exact .ok .none
    | @scalar v hv => cases v <;> first | exact .ok .none | cases hv

theorem resolve (hw : S.SameWorld w w') (ht : S.SameTable t u) (segments : List String) :
    SameResult S.SameValue (w.resolve t segments) (w'.resolve u segments) := by
  unfold World.resolve World.resolveIn
  cases segments with
  | nil => exact .error _
  | cons id r =>
    dsimp only
    obtain ⟨hv, hv'⟩ | ⟨v, v', hv, hv', same⟩ := ((hw.table ht).get? id).none_or_some
    · rw [hv, hv']
      exact .error _
    · rw [hv, hv']
      dsimp only
      obtain ⟨a, b, ha, hb, same⟩ | ⟨e, ha, hb⟩ := (hw.follow r same).ok_or_error
      · rw [ha, hb]
        cases same with
        | none => exact .error _
        | some same => exact .ok same
      · rw [ha, hb]
        exact .error _

end SameWorld

end Twins

end Bxml
