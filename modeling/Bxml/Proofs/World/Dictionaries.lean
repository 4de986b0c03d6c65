import Bxml.Proofs.Json.Fields
import Bxml.Proofs.Unfolding
import Bxml.Proofs.World.Ids

/-!
# Plain dictionaries

A dictionary without subscribers takes what is written to it and nothing else happens.  A value
renders as a JSON value from a certain object on, if no object before that one has a part in it;
then it renders so in every later world that keeps the objects from there on, inside of whatever
other objects.

* `IsPlain.setProperty` is the write to a dictionary without subscribers.
* `Renders` is the rendering that lasts, with `Extends` for the later worlds, and `renders_object`
  puts the renderings of the entries together to the one of the object.
-/

namespace Bxml

namespace Entries

variable {α : Type} {m : Entries α}

/-- Stores some pairs one after the other. -/
def insertAll (m : Entries α) (l : List (String × α)) : Entries α :=
  l.foldl (fun m p => m.insert p.1 p.2) m

/-- New names come last, in their order. -/
theorem toList_insertAll {l : List (String × α)} (h : (m.keys ++ l.map Prod.fst).Nodup) :
    (m.insertAll l).toList = m.toList ++ l := by
  induction l generalizing m with
  | nil => exact (List.append_nil _).symm
  | cons p l ih =>
    have new : p.1 ∉ m.keys := fun hm =>
      List.disjoint_of_nodup_append h hm List.mem_cons_self
    have next : ((m.insert p.1 p.2).keys ++ l.map Prod.fst).Nodup := by
      rw [keys_insert, if_neg new, List.append_assoc]
      exact h
    change ((m.insert p.1 p.2).insertAll l).toList = _
    rw [ih next, toList_insert_of_not_mem new, List.append_assoc]
    rfl

end Entries

namespace World

variable {w u v : World} {o : ObjectId} {n : String} {m : Entries Value}

/-! ## Later worlds -/

/-- Whether a world has at least the objects of an earlier one, and those at the indices of `keeps`
are as they were. -/
structure Extends (w u : World) (keeps : Nat → Prop) : Prop where
  size_le : w.objects.size ≤ u.objects.size
  same : ∀ i, keeps i → i < w.objects.size → u.objects[i]? = w.objects[i]?

namespace Extends

variable {keeps keeps' : Nat → Prop}

theorem refl (w : World) (keeps : Nat → Prop) : w.Extends w keeps :=
  ⟨Nat.le_refl _, fun _ _ _ => rfl⟩

theorem trans (h : w.Extends u keeps) (h' : u.Extends v keeps) : w.Extends v keeps where
  size_le := Nat.le_trans h.size_le h'.size_le
  same i hk hi := (h'.same i hk (Nat.lt_of_lt_of_le hi h.size_le)).trans (h.same i hk hi)

theorem mono (h : w.Extends u keeps) (hk : ∀ i, keeps' i → keeps i) : w.Extends u keeps' :=
  ⟨h.size_le, fun i hi => h.same i (hk i hi)⟩

/-- New objects are not among those that are kept. -/
theorem of_ne_size (h : w.Extends u (· ≠ w.objects.size)) : w.Extends u fun _ => True :=
  ⟨h.size_le, fun i _ hi => h.same i (Nat.ne_of_lt hi) hi⟩

end Extends

/-- Whether an object is a dictionary without subscribers and without a hook. -/
def IsPlain (w : World) (o : ObjectId) (typeName : String) (m : Entries Value) : Prop :=
  w.objects[o.index]? = some ⟨.dictionary ⟨typeName, m, none⟩, []⟩

namespace IsPlain

theorem lt_size (h : w.IsPlain o n m) : o.index < w.objects.size :=
  (Array.getElem?_eq_some_iff.1 h).1

theorem object_eq (h : w.IsPlain o n m) :
    w.object o = ⟨.dictionary ⟨n, m, none⟩, []⟩ := by
  unfold World.object
  rw [Array.getD_eq_getD_getElem?, h]
  rfl

theorem of_extends (h : w.IsPlain o n m) {keeps : Nat → Prop} (hw : w.Extends u keeps)
    (hk : keeps o.index) : u.IsPlain o n m :=
  (hw.same o.index hk h.lt_size).trans h

/-- Writing to a plain dictionary stores the value, and changes no other object. -/
theorem setProperty (host : Host) (held : Held) (h : w.IsPlain o n m) (k : String) (a : Value) :
    ∃ u, (host.setProperty held o k a).runIn w = (.ok (), u) ∧ u.IsPlain o n (m.insert k a) ∧
      u.objects.size = w.objects.size ∧ w.Extends u (· ≠ o.index) := by
  let u := (w.storeKey o ⟨n, m, none⟩ k a).world
  have plain : u.IsPlain o n (m.insert k a) := by
    change (w.objects.modify o.index _)[o.index]? = _
    rw [Array.getElem?_modify, if_pos rfl, h]
    rfl
  have assigned : w.assign o k a = .ok (w.storeKey o ⟨n, m, none⟩ k a) := by
    unfold assign
    rw [h.object_eq]
  -- nobody is told, however often changes may be passed on
  have quiet : (host.setProperty held o k a).runIn w = (.ok (), u) := by
    have none_told : (u.object o).subscribersOf k = [] := by
      rw [plain.object_eq]
      rfl
    have stored {publish : Held → ObjectId → String → Value → Op PropertyError Unit}
        (hp : ∀ held previous, (publish held o k previous).runIn u = (.ok (), u)) :
        (Host.writeThen publish held o k a).runIn w = (.ok (), u) := by
      unfold Op.runIn Host.writeThen
      rw [assigned]
      cases hs : w.storeKey o ⟨n, m, none⟩ k a with
      | mk world previous =>
        have hu : world = u := (congrArg Written.world hs).symm
        cases previous with
        | none => rw [hu]
        | some previous =>
          dsimp only
          rw [hu]
          exact hp _ previous
    unfold Host.setProperty
    cases host.nesting with
    | zero =>
      refine stored fun _ _ => ?_
      simp [Host.giveUp, none_told]
    | succ i =>
      refine stored fun _ _ => ?_
      unfold Host.publish
      rw [Op.bind_runIn_of_ok (Op.read_runIn _ _), none_told]
      rfl
  refine ⟨u, quiet, plain, Array.size_modify, ⟨Nat.le_of_eq Array.size_modify.symm, ?_⟩⟩
  intro i hi _
  change (w.objects.modify o.index _)[i]? = _
  rw [Array.getElem?_modify, if_neg (Ne.symm hi)]

end IsPlain

/-! ## Rendering -/

/-- Whether a value is written as `j`, in this world and every later one that keeps the objects
from `start` on, inside of any objects before that one. -/
def Renders (w : World) (a : Value) (j : Json) (start : Nat) : Prop :=
  ∀ u, w.Extends u (start ≤ ·) → ∀ path, (∀ p ∈ path, p.index < start) → u.toJsonIn path a = j

/-- A name with a value and the field it is written as. -/
def RendersField (w : World) (start : Nat) (p : String × Value) (q : String × Json) : Prop :=
  p.1 = q.1 ∧ w.Renders p.2 q.2 start

theorem renders_string (w : World) (s : String) (start : Nat) :
    w.Renders (.string s) (.string s) start := by
  intro u _ path _
  exact toJsonIn_scalar rfl

theorem Renders.mono {a : Value} {j : Json} {start start' : Nat} (h : w.Renders a j start)
    (hs : start' ≤ start) (hw : w.Extends u (start' ≤ ·)) : u.Renders a j start' := by
  intro x hx path hp
  refine h x ((hw.trans hx).mono fun i hi => Nat.le_trans hs hi) path fun p hp' => ?_
  exact Nat.lt_of_lt_of_le (hp p hp') hs

theorem RendersField.mono {p : String × Value} {q : String × Json} {start : Nat}
    (h : w.RendersField start p q) (hw : w.Extends u (start ≤ ·)) : u.RendersField start p q :=
  ⟨h.1, h.2.mono (Nat.le_refl _) hw⟩

/-- A plain dictionary is written with its type and its entries. -/
theorem IsPlain.toJsonIn_eq {path : List ObjectId} (h : w.IsPlain o n m) (outside : o ∉ path) :
    w.toJsonIn path (.object o) = .ofFields ((typeField, .string n) ::
      m.toList.map fun p => (p.1, w.toJsonIn (o :: path) p.2)) := by
  have object := h.object_eq
  have names : (w.object o).propertyNames.map
      (fun k => (k, w.toJsonIn (o :: path) (w.propertyValue o k))) =
      m.toList.map fun p => (p.1, w.toJsonIn (o :: path) p.2) := by
    rw [object]
    change (m.toList.map Prod.fst).map _ = _
    rw [List.map_map]
    refine List.map_congr_left fun p hp => ?_
    simp [propertyValue, object, Object.getProperty, Except.toOption, Entries.get?_of_mem hp]
  rw [toJsonIn_of_not_mem outside, objectJson, names]
  simp [typeName, object, Object.sequence?, Object.typeName]

/-- A plain dictionary renders so in every later world, if what is in its entries was made after
it. -/
theorem renders_object {fields : List (String × Json)} (h : w.IsPlain o n m)
    (hf : List.Forall₂ (w.RendersField (o.index + 1)) m.toList fields) :
    w.Renders (.object o) (.ofFields ((typeField, .string n) :: fields)) o.index := by
  intro u hu path hp
  have outside : o ∉ path := fun hc => Nat.lt_irrefl _ (hp o hc)
  have parts : m.toList.map (fun p => (p.1, u.toJsonIn (o :: path) p.2)) = fields := by
    have after : w.Extends u (o.index + 1 ≤ ·) := hu.mono fun i hi => Nat.le_of_succ_le hi
    have inside : ∀ p ∈ o :: path, p.index < o.index + 1 := by
      intro p hp'
      rcases List.mem_cons.1 hp' with rfl | hp'
      · exact Nat.lt_succ_self _
      · exact Nat.lt_succ_of_lt (hp p hp')
    rw [← List.forall₂_eq_eq_eq]
    refine List.forall₂_map_left_iff.2 (hf.imp fun p q hpq => ?_)
    rw [hpq.1, hpq.2 u after _ inside]
  rw [(h.of_extends hu (Nat.le_refl _)).toJsonIn_eq outside, parts]

end World

end Bxml
