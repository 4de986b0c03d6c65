import Bxml.Bundle.Basic
import Bxml.Proofs.World.Dictionaries

/-!
# Values of bundles written out

The values of a bundle are JSON values made into objects: arrays into lists, objects into
dictionaries, each part before the whole.  Written out they are the JSON values that they were made
from, except that every object that names no type now has the type of dictionaries.

`toJson_toValue` is the result.  Its statement counts the fields of every name (`occurrences`), so
that nothing is added but types.  What makes the induction go through is `IsWritten`: what is
written for a value depends only on the objects with an index in some range, those made for the
value, so that what is made before and after makes no difference (`IsWritten.mono`, `Remade.trans`,
`Remade.after`).
-/

namespace Bxml

namespace Json

/-! ## Types in JSON objects -/

/-- Some fields with the type of dictionaries, unless they name a type. -/
def Fields.tag (fs : Fields) : Fields :=
  if (get? fs typeField).isSome then fs
  else insert typeField (.string Object.dictionaryType) fs

mutual

/-- A JSON value with the type of dictionaries in every object that names no type, at any depth. -/
def tagged : Json → Json
  | .array items => .array (taggedItems items)
  | .object fields => .object (taggedFields fields).tag
  | j => j

/-- The same for some items. -/
def taggedItems : List Json → List Json
  | [] => []
  | j :: r => j.tagged :: taggedItems r

/-- The same for the values of some fields. -/
def taggedFields : List (String × Json) → Fields
  | [] => []
  | (k, j) :: r => (k, j.tagged) :: taggedFields r

end

mutual

/-- How many objects have a field named `k`, at any depth. -/
def occurrences (k : String) : Json → Nat
  | .array items => occurrencesIn k items
  | .object fields => occurrencesUnder k fields
  | _ => 0

/-- How often a field is named `k` in some items. -/
def occurrencesIn (k : String) : List Json → Nat
  | [] => 0
  | j :: r => j.occurrences k + occurrencesIn k r

/-- How often a field is named `k` among some fields and in their values. -/
def occurrencesUnder (k : String) : List (String × Json) → Nat
  | [] => 0
  | (q, j) :: r => (if q = k then 1 else 0) + j.occurrences k + occurrencesUnder k r

end

/-- At every depth, a floating point number is neither infinite nor a NaN. -/
inductive IsFinite : Json → Prop
  | null : IsFinite .null
  | bool (b : Bool) : IsFinite (.bool b)
  | int (i : Int64) : IsFinite (.int i)
  | float {x : Binary64} (finite : x.isFinite = true) : IsFinite (.float x)
  | string (s : String) : IsFinite (.string s)
  | array {items : List Json} (each : ∀ j ∈ items, IsFinite j) : IsFinite (.array items)
  | object {fs : List (String × Json)} (each : ∀ p ∈ fs, IsFinite p.2) : IsFinite (.object fs)

section Names

variable {k q : String} {v : Json} {fs : Fields}

theorem map_fst_taggedFields (fs : List (String × Json)) :
    (taggedFields fs).map Prod.fst = fs.map Prod.fst := by
  induction fs with
  | nil => simp only [taggedFields]
  | cons p r ih => simp only [taggedFields, List.map_cons, ih]

/-- A new field adds what its value has to what is there. -/
theorem occurrencesUnder_insert (new : Fields.get? fs q = none) (hq : q ≠ k) :
    occurrencesUnder k (Fields.insert q v fs) = v.occurrences k + occurrencesUnder k fs := by
  induction fs with
  | nil => simp [Fields.insert, occurrencesUnder, hq]
  | cons p r ih =>
    obtain ⟨j, x⟩ := p
    rw [Fields.get?_cons] at new
    have hj : q ≠ j := by
      rintro rfl
      simp at new
    rw [if_neg hj] at new
    unfold Fields.insert
    rw [if_neg hj]
    by_cases hlt : q < j
    · simp [hlt, occurrencesUnder, hq]
    · simp only [hlt, if_false, occurrencesUnder, ih new]
      omega

theorem occurrencesUnder_tag (hk : k ≠ typeField) (fs : Fields) :
    occurrencesUnder k fs.tag = occurrencesUnder k fs := by
  unfold Fields.tag
  split
  · rfl
  · next h =>
    rw [occurrencesUnder_insert (Option.not_isSome_iff_eq_none.1 h) (Ne.symm hk)]
    simp only [occurrences, Nat.zero_add]

mutual

/-- Only types are added. -/
theorem occurrences_tagged (hk : k ≠ typeField) :
    ∀ j : Json, j.tagged.occurrences k = j.occurrences k
  | .null | .bool _ | .int _ | .float _ | .string _ => by simp only [tagged]
  | .array items => by simp only [tagged, occurrences, occurrencesIn_taggedItems hk items]
  | .object fields => by
    simp only [tagged, occurrences, occurrencesUnder_tag hk,
      occurrencesUnder_taggedFields hk fields]

theorem occurrencesIn_taggedItems (hk : k ≠ typeField) :
    ∀ js : List Json, occurrencesIn k (taggedItems js) = occurrencesIn k js
  | [] => by simp only [taggedItems]
  | j :: r => by
    simp only [taggedItems, occurrencesIn, occurrences_tagged hk j, occurrencesIn_taggedItems hk r]

theorem occurrencesUnder_taggedFields (hk : k ≠ typeField) :
    ∀ fs : List (String × Json), occurrencesUnder k (taggedFields fs) = occurrencesUnder k fs
  | [] => by simp only [taggedFields]
  | (_, j) :: r => by
    simp only [taggedFields, occurrencesUnder, occurrences_tagged hk j,
      occurrencesUnder_taggedFields hk r]

end

end Names

/-! ## Stored fields -/

namespace Fields

variable {fs : Fields}

theorem get?_tag (fs : Fields) (k : String) :
    get? fs.tag k =
      (get? fs k).or (if k = typeField then some (.string Object.dictionaryType) else none) := by
  unfold tag
  split
  · next h =>
    obtain ⟨x, hx⟩ := Option.isSome_iff_exists.1 h
    by_cases hk : k = typeField <;> simp [hk, hx]
  · next h =>
    rw [get?_insert]
    by_cases hk : k = typeField
    · simp [hk, Option.not_isSome_iff_eq_none.1 h]
    · simp [hk]

theorem sorted_tag (sorted : fs.Pairwise fun p q => p.1 < q.1) :
    fs.tag.Pairwise fun p q => p.1 < q.1 := by
  unfold tag
  split
  · exact sorted
  · exact sorted_insert sorted

/-- Sorted fields that are stored count before those that were there. -/
theorem get?_foldl_of_sorted (sorted : fs.Pairwise fun p q => p.1 < q.1) (gs : Fields)
    (k : String) :
    get? (fs.foldl (fun gs p => insert p.1 p.2 gs) gs) k = (get? fs k).or (get? gs k) := by
  induction fs generalizing gs with
  | nil => rfl
  | cons p r ih =>
    obtain ⟨before, sorted⟩ := List.pairwise_cons.1 sorted
    rw [List.foldl_cons, ih sorted, get?_insert, get?_cons]
    by_cases hk : k = p.1
    · have later : get? r k = none := get?_eq_none_of_forall_ne fun q hq e =>
        String.lt_irrefl _ (e.trans hk ▸ before q hq)
      rw [if_pos hk, if_pos hk, later]
      rfl
    · rw [if_neg hk, if_neg hk]

end Fields

/-- Fields that are stored after a type count before it. -/
theorem ofFields_type {fs : Fields} (sorted : fs.Pairwise fun p q => p.1 < q.1) :
    ofFields ((typeField, .string Object.dictionaryType) :: fs) = .object fs.tag := by
  refine congrArg Json.object (Fields.eq_of_get?_eq (Fields.sorted_ofList _)
    (Fields.sorted_tag sorted) fun k => ?_)
  refine (Fields.get?_foldl_of_sorted sorted _ k).trans ?_
  rw [Fields.get?_insert, Fields.get?_tag]
  rfl

end Json

/-! ## Making and writing -/

namespace World

variable {w v : World} {start start' stop stop' : Nat} {a : Value} {j : Json}

/-- Whether a value is written as `j` in every world that has the objects of this one with an index
from `start` up to `stop`, inside of whatever other objects. -/
def IsWritten (w : World) (start stop : Nat) (a : Value) (j : Json) : Prop :=
  ∀ (u : World) (path : List ObjectId),
    (∀ i, start ≤ i → i < stop → u.objects[i]? = w.objects[i]?) →
    (∀ p ∈ path, start ≤ p.index → stop ≤ p.index) → u.toJsonIn path a = j

theorem isWritten_scalar (w : World) (start stop : Nat) (ha : a.object? = none) :
    w.IsWritten start stop a (scalarJson a) :=
  fun _ _ _ _ => toJsonIn_scalar ha

/-- Objects before and after those that have a part in a value make no difference. -/
theorem IsWritten.mono (h : w.IsWritten start stop a j) (hw : w.Extends v fun _ => True)
    (inside : stop ≤ w.objects.size) (first : start' ≤ start) (last : stop ≤ stop') :
    v.IsWritten start' stop' a j := by
  intro u path same apart
  refine h u path (fun i hi hs => ?_) fun p hp hs => ?_
  · exact (same i (Nat.le_trans first hi) (Nat.lt_of_lt_of_le hs last)).trans
      (hw.same i trivial (Nat.lt_of_lt_of_le hs inside))
  · exact Nat.le_trans last (apart p hp (Nat.le_trans first hs))

theorem extends_alloc (w : World) (x : Object) : w.Extends (w.alloc x).2 fun _ => True where
  size_le := by simp [alloc]
  same i _ hi := by
    unfold alloc
    exact Array.getElem?_push_lt hi ▸ (Array.getElem?_eq_getElem hi).symm

end World

namespace Json

open World (Extends)

mutual

/-- What is made from a value is new. -/
theorem toValue_extends : ∀ (j : Json) (w : World), w.Extends (j.toValue w).2 fun _ => True
  | .null, w | .bool _, w | .int _, w | .float _, w | .string _, w => .refl w _
  | .array items, w => (toValues_extends items w).trans (World.extends_alloc _ _)
  | .object fields, w => (toEntries_extends fields w).trans (World.extends_alloc _ _)

theorem toValues_extends : ∀ (js : List Json) (w : World), w.Extends (toValues js w).2 fun _ => True
  | [], w => .refl w _
  | j :: r, w => (toValue_extends j w).trans (toValues_extends r _)

theorem toEntries_extends :
    ∀ (fs : List (String × Json)) (w : World), w.Extends (toEntries fs w).2 fun _ => True
  | [], w => .refl w _
  | (_, j) :: r, w => (toValue_extends j w).trans (toEntries_extends r _)

end

/-- Whether a value that is made in `w` is written as `j`, whatever is made before and after it. -/
abbrev Remade (w v : World) (a : Value) (j : Json) : Prop :=
  v.IsWritten w.objects.size v.objects.size a j

/-- A new object is written with what was made for it before: it is not inside itself. -/
theorem remade_alloc {w u : World} {object : Object} {j : Json} (grown : w.Extends u fun _ => True)
    (h : ∀ (x : World) (path : List ObjectId), x.objects[u.objects.size]? = some object →
      ⟨u.objects.size⟩ ∉ path →
      (∀ a j, Remade w u a j → x.toJsonIn (⟨u.objects.size⟩ :: path) a = j) →
      x.toJsonIn path (.object ⟨u.objects.size⟩) = j) :
    Remade w (u.alloc object).2 (.object (u.alloc object).1) j := by
  have size : (u.alloc object).2.objects.size = u.objects.size + 1 := by simp [World.alloc]
  have before : u.objects.size < (u.alloc object).2.objects.size := size ▸ Nat.lt_succ_self _
  intro x path same apart
  refine h x path ?_ (fun hp => ?_) fun a j written => ?_
  · rw [same _ grown.size_le before]
    simp [World.alloc]
  · exact Nat.not_lt_of_le (apart _ hp grown.size_le) before
  · refine written x _ (fun i hi hs => ?_) ?_
    · rw [same i hi (Nat.lt_trans hs before)]
      exact (u.extends_alloc object).same i trivial hs
    · refine List.forall_mem_cons.2 ⟨fun _ => Nat.le_refl _, fun p hp hs => ?_⟩
      exact Nat.le_trans (Nat.le_of_lt before) (apart p hp hs)

/-- A list is written as its items are. -/
theorem remade_list {w u : World} {vs : List Value} {items : List Json}
    (grown : w.Extends u fun _ => True) (h : List.Forall₂ (Remade w u) vs items) :
    Remade w (u.alloc (.ofItems vs)).2 (.object (u.alloc (.ofItems vs)).1) (.array items) := by
  refine remade_alloc grown fun x path made outside parts => ?_
  have object : x.object ⟨u.objects.size⟩ = .ofItems vs := by
    unfold World.object
    rw [Array.getD_eq_getD_getElem?, made]
    rfl
  have written : vs.map (x.toJsonIn (⟨u.objects.size⟩ :: path)) = items := by
    rw [← List.forall₂_eq_eq_eq]
    exact List.forall₂_map_left_iff.2 (h.imp parts)
  rw [World.toJsonIn_of_not_mem outside, World.objectJson, object]
  exact congrArg Json.array written

/-- A dictionary is written as its entries are, with its type unless an entry is named like that. -/
theorem remade_dictionary {w u : World} {ps : List (String × Value)} {fs : Fields}
    (grown : w.Extends u fun _ => True) (sorted : fs.Pairwise fun p q => p.1 < q.1)
    (h : List.Forall₂ (fun p q => p.1 = q.1 ∧ Remade w u p.2 q.2) ps fs) :
    Remade w (u.alloc ⟨.dictionary ⟨Object.dictionaryType, .ofList ps, none⟩, []⟩).2
      (.object (u.alloc ⟨.dictionary ⟨Object.dictionaryType, .ofList ps, none⟩, []⟩).1)
      (.object fs.tag) := by
  have names : ps.map Prod.fst = fs.map Prod.fst := by
    rw [← List.forall₂_eq_eq_eq, List.forall₂_map_left_iff, List.forall₂_map_right_iff]
    exact h.imp fun _ _ h => h.1
  have nodup : (ps.map Prod.fst).Nodup := by
    rw [names]
    refine List.pairwise_map.2 (sorted.imp fun {p q} hpq (he : p.1 = q.1) => ?_)
    rw [he] at hpq
    exact String.lt_irrefl _ hpq
  have entries : (Entries.ofList ps).toList = ps := Entries.toList_insertAll (m := .empty) nodup
  refine remade_alloc grown fun x path made outside parts => ?_
  have plain : x.IsPlain ⟨u.objects.size⟩ Object.dictionaryType (.ofList ps) := made
  have written : ps.map (fun p => (p.1, x.toJsonIn (⟨u.objects.size⟩ :: path) p.2)) = fs := by
    rw [← List.forall₂_eq_eq_eq]
    exact List.forall₂_map_left_iff.2 (h.imp fun p q h => Prod.ext h.1 (parts _ _ h.2))
  rw [plain.toJsonIn_eq outside, entries, written, ofFields_type sorted]

/-- What is made after a value leaves it as it is written. -/
theorem Remade.trans {w u v : World} {a : Value} {j : Json} (h : Remade w u a j)
    (grown : u.Extends v fun _ => True) : Remade w v a j :=
  World.IsWritten.mono h grown (Nat.le_refl _) (Nat.le_refl _) grown.size_le

/-- What is made before a value makes no difference to it. -/
theorem Remade.after {w u v : World} {a : Value} {j : Json} (h : Remade u v a j)
    (grown : w.Extends u fun _ => True) : Remade w v a j :=
  World.IsWritten.mono h (.refl v _) (Nat.le_refl _) grown.size_le (Nat.le_refl _)

mutual

theorem remade_toValue : ∀ (j : Json), j.IsOrdered → j.IsFinite → ∀ w : World,
    Remade w (j.toValue w).2 (j.toValue w).1 j.tagged
  | .null, _, _, w | .bool _, _, _, w | .int _, _, _, w | .string _, _, _, w =>
    World.isWritten_scalar w _ _ rfl
  | .float x, _, finite, w => by
    cases finite with
    | float finite =>
      have written : w.IsWritten _ _ (.float x) (World.scalarJson (.float x)) :=
        w.isWritten_scalar w.objects.size w.objects.size rfl
      rw [World.scalarJson, if_pos finite] at written
      exact written
  | .array items, ordered, finite, w => by
    cases ordered with
    | array ordered =>
      cases finite with
      | array finite =>
        simp only [toValue, tagged]
        exact remade_list (toValues_extends items w) (remade_toValues items ordered finite w)
  | .object fields, ordered, finite, w => by
    cases finite with
    | object finite =>
      simp only [toValue, tagged]
      refine remade_dictionary (toEntries_extends fields w) ?_
        (remade_toEntries fields ordered.each finite w)
      rw [← List.pairwise_map, map_fst_taggedFields, List.pairwise_map]
      exact ordered.sorted

theorem remade_toValues : ∀ (js : List Json), (∀ j ∈ js, j.IsOrdered) → (∀ j ∈ js, j.IsFinite) →
    ∀ w : World, List.Forall₂ (Remade w (toValues js w).2) (toValues js w).1 (taggedItems js)
  | [], _, _, w => by
    simp only [toValues, taggedItems]
    exact .nil
  | j :: r, ordered, finite, w => by
    rw [List.forall_mem_cons] at ordered finite
    simp only [toValues, taggedItems]
    refine .cons ((remade_toValue j ordered.1 finite.1 w).trans (toValues_extends r _)) ?_
    exact (remade_toValues r ordered.2 finite.2 _).imp fun _ _ h => h.after (toValue_extends j w)

theorem remade_toEntries : ∀ (fs : List (String × Json)), (∀ p ∈ fs, p.2.IsOrdered) →
    (∀ p ∈ fs, p.2.IsFinite) → ∀ w : World,
    List.Forall₂ (fun p q => p.1 = q.1 ∧ Remade w (toEntries fs w).2 p.2 q.2) (toEntries fs w).1
      (taggedFields fs)
  | [], _, _, w => by
    simp only [toEntries, taggedFields]
    exact .nil
  | (k, j) :: r, ordered, finite, w => by
    rw [List.forall_mem_cons] at ordered finite
    simp only [toEntries, taggedFields]
    refine .cons ⟨rfl, (remade_toValue j ordered.1 finite.1 w).trans (toEntries_extends r _)⟩ ?_
    exact (remade_toEntries r ordered.2 finite.2 _).imp fun _ _ h =>
      ⟨h.1, h.2.after (toValue_extends j w)⟩

end

/-- A JSON value that is made into a value, in whatever world, is written out as it was, with the
type of dictionaries in every object that names no type; there are no other new fields, and so no
references. -/
theorem toJson_toValue {j : Json} (ordered : j.IsOrdered) (finite : j.IsFinite) (w : World) :
    (j.toValue w).2.toJson (j.toValue w).1 = j.tagged ∧
      ∀ k ≠ typeField, j.tagged.occurrences k = j.occurrences k :=
  ⟨remade_toValue j ordered finite w _ [] (fun _ _ _ => rfl) (by simp),
    fun _ hk => occurrences_tagged hk j⟩

/-- A panel with a label, which names its type. -/
def panel : Json :=
  .object [("items", .array [.int 3, .object [("@type", .string "Label"), ("text", .null)],
    .object []]), ("width", .float (.ofInt 2))]

/-- Of the objects of the panel only the label keeps its type. -/
theorem toJson_toValue_panel :
    (panel.toValue .empty).2.toJson (panel.toValue .empty).1 =
        .object [("@type", .string "Dictionary"),
          ("items", .array [.int 3, .object [("@type", .string "Label"), ("text", .null)],
            .object [("@type", .string "Dictionary")]]), ("width", .float (.ofInt 2))] ∧
      panel.tagged.occurrences referenceField = 0 := by
  have ordered : panel.IsOrdered := by
    refine .object (by decide) (List.forall_mem_cons.2 ⟨.array ?_, by simpa using .float _⟩)
    refine List.forall_mem_cons.2 ⟨.int 3, List.forall_mem_cons.2 ⟨.object (by decide) ?_, ?_⟩⟩
    · exact List.forall_mem_cons.2 ⟨.string _, by simpa using .null⟩
    · simpa using .object .nil (by simp)
  have finite : panel.IsFinite := by
    refine .object (List.forall_mem_cons.2 ⟨.array ?_, by simpa using .float (by decide)⟩)
    refine List.forall_mem_cons.2 ⟨.int 3, List.forall_mem_cons.2 ⟨.object ?_, ?_⟩⟩
    · exact List.forall_mem_cons.2 ⟨.string _, by simpa using .null⟩
    · simpa using .object (by simp)
  obtain ⟨written, names⟩ := toJson_toValue ordered finite .empty
  exact ⟨written.trans rfl, (names referenceField (by decide)).trans rfl⟩

end Json

end Bxml
