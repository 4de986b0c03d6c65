import Bxml.Proofs.World.Listeners

/-!
# Listeners and ids come together

Listeners are only ever added to a list, and ids to a table: whatever is done to a world, those that
were there are there still.

`Gathers` is that relation, `Gathers.of_keepsIds` has it where tables stay as they are, and
`Gathers.installed` uses it for a listener that was installed once.
-/

namespace Bxml

namespace World

variable {w v u : World} {o : ObjectId} {t : TableId}

/-- Whether the lists of listeners of all objects have at most got longer. -/
def GathersListeners (w v : World) : Prop :=
  ∀ o name list, (w.object o).listeners? name = some list →
    ∃ more, (v.object o).listeners? name = some { list with listeners := list.listeners ++ more }

/-- Whether all listeners and all ids are there still. -/
structure Gathers (w v : World) : Prop where
  listeners : GathersListeners w v
  size : w.tables.size ≤ v.tables.size
  ids {t : TableId} {id : String} {a : Value} :
    (w.table t).get? id = some a → (v.table t).get? id = some a

theorem gathersListeners_of_eq
    (h : ∀ o name, (v.object o).listeners? name = (w.object o).listeners? name) :
    GathersListeners w v := fun o name list hl => ⟨[], by rw [h, hl, List.append_nil]⟩

theorem gathersListeners_trans (h : GathersListeners w v) (h' : GathersListeners v u) :
    GathersListeners w u := by
  intro o name list hl
  obtain ⟨more, hv⟩ := h o name list hl
  obtain ⟨more', hu⟩ := h' o name _ hv
  exact ⟨more ++ more', by rw [hu, List.append_assoc]⟩

/-- A listener that is added comes last in its list. -/
theorem listeners?_addListener {name : String} {list : ListenerList}
    (h : (w.object o).listeners? name = some list) (x : Listener) (k : String) :
    ((w.addListener o name x).object o).listeners? k =
      if k = name then some { list with listeners := list.listeners ++ [x] }
      else (w.object o).listeners? k := by
  have inside : w.Lists o name := by
    unfold Lists
    rw [h]
    rfl
  unfold addListener
  rw [object_modify w o o _ (lt_size_of_lists inside), if_pos rfl]
  unfold Object.listeners? at h ⊢
  cases hc : (w.object o).content with
  | bean b =>
    rw [hc] at h
    obtain ⟨s, hs, hl⟩ := Option.bind_eq_some_iff.1 h
    cases s with
    | listeners found =>
      cases hl
      dsimp only
      rw [hs]
      dsimp only
      rw [Entries.get?_insert]
      split
      · rfl
      · rfl
    | _ => cases hl
  | _ =>
    rw [hc] at h
    cases h

theorem gathersListeners_addListener (w : World) (o : ObjectId) (name : String) (x : Listener) :
    GathersListeners w (w.addListener o name x) := by
  cases hn : (w.object o).listeners? name with
  | some found =>
    intro o' k list hl
    by_cases same : o' = o
    · subst same
      rw [listeners?_addListener hn]
      split
      · next same =>
        rw [same, hn] at hl
        cases hl
        exact ⟨[x], rfl⟩
      · exact ⟨[], by rw [hl, List.append_nil]⟩
    · refine ⟨[], ?_⟩
      unfold addListener
      rw [object_modify_eq_ite, if_neg fun h => same h.1, hl, List.append_nil]
  | none =>
    -- Where there is no list of the name, nothing is added.
    refine gathersListeners_of_eq (listeners?_modify fun k => ?_)
    split
    · next b hb =>
      split
      · next list hs =>
        unfold Object.listeners? at hn
        rw [hb] at hn
        dsimp only at hn
        rw [hs] at hn
        cases hn
      · rfl
    · rfl

theorem lt_size_of_get? {id : String} {a : Value} (h : (w.table t).get? id = some a) :
    t.index < w.tables.size := by
  by_contra hi
  unfold table at h
  rw [Array.getD, dif_neg hi] at h
  cases h

/-- An id that is registered has its value. -/
theorem get?_putId {id : String} {a : Value} (ht : t.index < w.tables.size)
    (h : w.putId t id a = .ok v) (k : String) :
    (v.table t).get? k = if k = id then some a else (w.table t).get? k := by
  rw [table_putId_eq_insert ht h, Entries.get?_insert]

/-- Where tables stay as they are, all ids are there still. -/
theorem Gathers.of_keepsIds (hl : GathersListeners w v) (ht : KeepsIds w v) : Gathers w v where
  listeners := hl
  size := ht.size_le
  ids h := by rwa [ht.table_eq (lt_size_of_get? h)]

instance : Enduring Gathers where
  refl w := .of_keepsIds (gathersListeners_of_eq fun _ _ => rfl) (Lasting.refl w)
  trans h h' := ⟨gathersListeners_trans h.listeners h'.listeners, Nat.le_trans h.size h'.size,
    h'.ids ∘ h.ids⟩
  emit w e := .of_keepsIds (gathersListeners_of_eq fun _ _ => rfl) (Lasting.emit w e)
  exhaust w := .of_keepsIds (gathersListeners_of_eq fun _ _ => rfl) (Lasting.exhaust w)
  alloc w x := by
    refine .of_keepsIds (fun o name list hl => ⟨[], ?_⟩) (Lasting.alloc w x)
    have inside : w.Lists o name := by
      unfold Lists
      rw [hl]
      rfl
    rw [object_alloc, if_neg (Nat.ne_of_lt (lt_size_of_lists inside)), hl, List.append_nil]
  allocTable w ids := .of_keepsIds (gathersListeners_of_eq fun _ _ => rfl) (Lasting.allocTable w ids)
  assign h := .of_keepsIds (gathersListeners_of_eq (listeners?_assign h)) (Lasting.assign h)
  append w o v := by
    refine .of_keepsIds (gathersListeners_of_eq (listeners?_modify fun name => ?_))
      (Lasting.append w o v)
    unfold Object.listeners?
    cases hc : (w.object o).content <;> simp [hc]
  subscribe w o name s := .of_keepsIds (gathersListeners_of_eq (listeners?_modify fun _ => rfl))
    (Lasting.subscribe w o name s)
  addListener w o name x := .of_keepsIds (gathersListeners_addListener w o name x)
    (Lasting.addListener w o name x)
  putId {w v t id a} h := by
    have objects : v.objects = w.objects := objects_putId h
    refine ⟨gathersListeners_of_eq fun o name => by unfold object; rw [objects],
      Nat.le_of_eq (tables_size_putId h).symm, fun {t' id' a'} hg => ?_⟩
    by_cases ht : t = t'
    · subst ht
      rw [get?_putId (lt_size_of_get? hg) h, if_neg]
      · exact hg
      · rintro rfl
        have known := (Entries.isSome_get? _ _).symm.trans (Option.isSome_of_mem hg)
        exact (putId_eq h).1 (List.contains_iff_mem.1 known)
    · rwa [table_putId_of_ne ht h]

/-- Whether a listener is in the list behind the named property of an object. -/
def Installed (w : World) (o : ObjectId) (name : String) (x : Listener) : Prop :=
  ∃ list, (w.object o).listeners? name = some list ∧ x ∈ list.listeners

theorem Gathers.installed (h : Gathers w v) {name : String} {x : Listener}
    (hx : w.Installed o name x) : v.Installed o name x := by
  obtain ⟨list, hl, hx⟩ := hx
  obtain ⟨more, hv⟩ := h.listeners o name list hl
  exact ⟨_, hv, List.mem_append_left more hx⟩

theorem installed_addListener {name : String} {list : ListenerList}
    (h : (w.object o).listeners? name = some list) (x : Listener) :
    (w.addListener o name x).Installed o name x :=
  ⟨_, (listeners?_addListener h x name).trans (if_pos rfl),
    List.mem_append_right _ List.mem_cons_self⟩

end World

end Bxml
