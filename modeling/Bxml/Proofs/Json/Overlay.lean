import Bxml.Bundle.Basic
import Bxml.Proofs.Json.Ordered

/-!
# What an overlay leaves in place

An overlay gives no object a field and takes none away. It may put a string where an object was,
or an object where a string was, and then the paths that lead through that place are no longer the
same. As long as both sides have the same shape along a path, the path leads somewhere with the
overlay exactly when it did without.

* `clash?` finds the place where two values differ in shape on the way down a path, if there is one.
* `get?_overlay` is the equation for a field, from which all else follows by induction on the path:
  `isSome_descend_overlayValue` for one overlay, `isSome_descend_foldl` for several.  That an
  overlay without a clash makes none for the next one is `clash?_overlayValue`.
* `isSome_find?_foldl` puts it in terms of keys, for the bundles of `Bundle/Loader.lean`.
-/

namespace Bxml.Json

/-- The fields of an object. -/
def fields? : Json → Option Fields
  | .object fs => some fs
  | _ => none

/-- Where two values first differ in shape on the way down a path, one being an object and the
other not: the rest of the path, with what either side holds there. -/
def clash? : List String → Json → Json → Option (List String × Json × Json)
  | [], _, _ => none
  | s :: t, x, r =>
    match x.fields?, r.fields? with
    | some b, some o =>
      match Fields.get? b s, Fields.get? o s with
      | some y, some z => clash? t y z
      | _, _ => none
    | none, none => none
    | _, _ => some (s :: t, x, r)

variable {x r : Json} {b o : Fields}

@[simp] theorem fields?_object (fs : Fields) : (Json.object fs).fields? = some fs := rfl

theorem fields?_eq_some : x.fields? = some b ↔ x = .object b := by
  cases x <;> simp [fields?]

/-- A path leads through the fields of an object only. -/
theorem descend_cons (s : String) (t : List String) (x : Json) :
    descend (s :: t) x = (x.fields?.bind fun fs => Fields.get? fs s).bind (descend t) := by
  cases x with
  | object fs => cases h : Fields.get? fs s <;> simp [descend, fields?, h]
  | _ => rfl

/-- Two objects are laid over each other field by field. -/
@[simp] theorem overlayValue_object : overlayValue (.object b) (.object o) = .object (overlay b o) := by
  simp only [overlayValue]

/-- Anything else is replaced as a whole. -/
theorem overlayValue_eq_right (h : x.fields? = none ∨ r.fields? = none) :
    overlayValue x r = r := by
  cases r with
  | object o =>
    cases x with
    | object b => simp [fields?] at h
    | _ => simp only [overlayValue]
  | _ => simp only [overlayValue]

/-! ### Fields -/

/-- An overlay leaves the names of the fields and their order as they are. -/
theorem map_fst_overlay (b o : Fields) : (overlay b o).map Prod.fst = b.map Prod.fst := by
  induction o generalizing b with
  | nil => simp only [overlay]
  | cons p rest ih =>
    simp only [overlay]
    rw [ih, List.map_map]
    refine List.map_congr_left fun q _ => ?_
    simp only [Function.comp_apply]
    split <;> rfl

theorem Fields.get?_map_ite (fs : Fields) (q k : String) (f : Json → Json) :
    get? (fs.map fun p => if p.1 = q then (p.1, f p.2) else p) k =
      if k = q then (get? fs k).map f else get? fs k := by
  induction fs with
  | nil => simp
  | cons p r ih =>
    rw [List.map_cons]
    by_cases hp : p.1 = q
    · rw [if_pos hp, get?_cons, ih, get?_cons]
      by_cases hk : k = p.1
      · simp [hk, hp]
      · simp only [if_neg hk]
    · rw [if_neg hp, get?_cons, ih, get?_cons]
      by_cases hk : k = p.1
      · simp [hk, hp]
      · simp only [if_neg hk]

/-- A field of the overlay changes the field of its name and no other. -/
theorem get?_overlay (ho : (Json.object o).IsOrdered) (k : String) :
    Fields.get? (overlay b o) k = (Fields.get? b k).map fun x =>
      match Fields.get? o k with
      | some r => overlayValue x r
      | none => x := by
  induction o generalizing b with
  | nil => simp [overlay]
  | cons p rest ih =>
    obtain ⟨q, r⟩ := p
    simp only [overlay]
    rw [ih ho.tail, Fields.get?_map_ite b q k fun x => overlayValue x r]
    by_cases hk : k = q
    · subst hk
      simp [Fields.get?_cons, ho.get?_tail_head, Function.comp_def]
    · simp only [Fields.get?_cons, if_neg hk]

/-! ### Paths -/

section Paths

variable {path : List String}

/-- No clash: neither side is an object, or both are and there is none further down. -/
theorem clash?_cons_eq_none {s : String} {t : List String} :
    clash? (s :: t) x r = none ↔ x.fields? = none ∧ r.fields? = none ∨
      ∃ b o, x = .object b ∧ r = .object o ∧ ∀ y z, Fields.get? b s = some y →
        Fields.get? o s = some z → clash? t y z = none := by
  simp only [clash?, ← fields?_eq_some]
  cases x.fields? with
  | none => cases r.fields? <;> simp
  | some b =>
    cases r.fields? with
    | none => simp
    | some o => cases hb : Fields.get? b s <;> cases ho : Fields.get? o s <;> simp [hb, ho]

/-- Without a clash, a path leads somewhere with the overlay exactly when it did without. -/
theorem isSome_descend_overlayValue (hr : r.IsOrdered) (h : clash? path x r = none) :
    (descend path (overlayValue x r)).isSome = (descend path x).isSome := by
  induction path generalizing x r with
  | nil => rfl
  | cons s t ih =>
    obtain ⟨hx, ho⟩ | ⟨b, o, rfl, rfl, below⟩ := clash?_cons_eq_none.1 h
    · rw [overlayValue_eq_right (.inl hx), descend_cons, descend_cons, hx, ho]
    rw [overlayValue_object, descend_cons, descend_cons]
    simp only [fields?_object, Option.bind_some, get?_overlay hr]
    cases hb : Fields.get? b s with
    | none => rfl
    | some y =>
      cases hz : Fields.get? o s with
      | none => rfl
      | some z => exact ih (hr.of_get? hz) (below y z hb hz)

/-- An overlay that does not clash along a path lets no other one clash there. -/
theorem clash?_overlayValue {r' : Json} (hr : r.IsOrdered) (h : clash? path x r = none)
    (h' : clash? path x r' = none) : clash? path (overlayValue x r) r' = none := by
  induction path generalizing x r r' with
  | nil => rfl
  | cons s t ih =>
    refine clash?_cons_eq_none.2 ?_
    obtain ⟨hx, ho'⟩ | ⟨b, o', rfl, rfl, below'⟩ := clash?_cons_eq_none.1 h'
    · obtain ⟨-, ho⟩ | ⟨b, o, rfl, -⟩ := clash?_cons_eq_none.1 h
      · exact .inl ⟨by rwa [overlayValue_eq_right (.inl hx)], ho'⟩
      · cases hx
    obtain ⟨hx, -⟩ | ⟨b', o, hx, rfl, below⟩ := clash?_cons_eq_none.1 h
    · cases hx
    obtain rfl := Json.object.inj hx
    refine .inr ⟨overlay b o, o', overlayValue_object, rfl, fun y' z' hy' hz' => ?_⟩
    rw [get?_overlay hr] at hy'
    obtain ⟨y, hb, rfl⟩ := Option.map_eq_some_iff.1 hy'
    cases hz : Fields.get? o s with
    | none => exact below' y z' hb hz'
    | some z => exact ih (hr.of_get? hz) (below y z hb hz) (below' y z' hb hz')

/-- The same for several overlays, laid one over the other. -/
theorem isSome_descend_foldl {os : List Fields} (ordered : ∀ o ∈ os, (Json.object o).IsOrdered)
    (h : ∀ o ∈ os, clash? path (.object b) (.object o) = none) :
    (descend path (.object (os.foldl overlay b))).isSome = (descend path (.object b)).isSome := by
  induction os generalizing b with
  | nil => rfl
  | cons o os ih =>
    obtain ⟨ho, ordered⟩ := List.forall_mem_cons.1 ordered
    obtain ⟨hb, h⟩ := List.forall_mem_cons.1 h
    rw [List.foldl_cons, ih ordered fun o' ho' => ?_]
    · rw [← overlayValue_object, isSome_descend_overlayValue ho hb]
    · rw [← overlayValue_object]
      exact clash?_overlayValue ho hb (h o' ho')

end Paths

/-! ### Keys -/

theorem Fields.isSome_get? (fs : Fields) (k : String) :
    (get? fs k).isSome = (fs.map Prod.fst).contains k := by
  induction fs with
  | nil => rfl
  | cons p r ih =>
    rw [get?_cons, List.map_cons, List.contains_cons, ← ih]
    by_cases h : k = p.1 <;> simp [h]

theorem map_fst_foldl_overlay (b : Fields) (os : List Fields) :
    (os.foldl overlay b).map Prod.fst = b.map Prod.fst := by
  induction os generalizing b with
  | nil => rfl
  | cons o os ih => rw [List.foldl_cons, ih, map_fst_overlay]

/-- A key that is the name of a field stays defined. Any other key is defined with the overlays
exactly when it was without, unless one of them clashes along its path. -/
theorem isSome_find?_foldl {os : List Fields} {key : String}
    (ordered : ∀ o ∈ os, (Json.object o).IsOrdered)
    (h : Fields.get? b key = none →
      ∀ o ∈ os, clash? (pathSegments key) (.object b) (.object o) = none) :
    (Fields.find? (os.foldl overlay b) key).isSome = (Fields.find? b key).isSome := by
  have flat : (Fields.get? (os.foldl overlay b) key).isSome = (Fields.get? b key).isSome := by
    rw [Fields.isSome_get?, Fields.isSome_get?, map_fst_foldl_overlay]
  simp only [Fields.find?]
  cases hb : Fields.get? b key with
  | some x =>
    obtain ⟨y, hy⟩ := Option.isSome_iff_exists.1 (flat.trans (hb ▸ rfl))
    rw [hy]
    rfl
  | none =>
    rw [Option.isNone_iff_eq_none.1 (Option.isSome_eq_false_iff.1 (flat.trans (hb ▸ rfl)))]
    exact isSome_descend_foldl ordered (h hb)

end Bxml.Json
