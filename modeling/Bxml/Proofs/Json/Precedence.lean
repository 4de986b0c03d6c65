import Bxml.Proofs.Json.Overlay

/-!
# Which side counts

An overlay is laid over an object field by field, as deep as both sides are objects.  In every place
where they are, the names are those of the object below; a field counts that the overlay lacks, or
else the overlay's field, unless both fields are objects in turn.  Laying the same overlay over the
result once more changes nothing, and of several overlays the last one counts that has the field.

`overlay_precedence` is the result, `IsOverlaid` says which fields an overlaid object has, and
`Replaces` is the case in which a field is not laid over in turn.  All of it comes of one equation,
which changes every field by itself (`overlay_eq_map`); places further down are reached by induction
on the path (`descend_overlayValue`), and of several overlays those after the last one that has the
field are silent about it (`IsSilentOn`).  The values are ordered, as all values that are read are.
-/

namespace Bxml.Json

variable {x r y z : Json} {b o : Fields} {path : List String}

/-! ## Twice the same -/

theorem Fields.get?_of_mem {fs : Fields} {p : String × Json}
    (sorted : fs.Pairwise fun p q => p.1 < q.1) (h : p ∈ fs) : get? fs p.1 = some p.2 := by
  induction fs with
  | nil => cases h
  | cons q r ih =>
    obtain ⟨before, sorted⟩ := List.pairwise_cons.1 sorted
    rcases List.mem_cons.1 h with rfl | h
    · exact (get?_cons ..).trans (if_pos rfl)
    · rw [get?_cons, if_neg fun e => String.lt_irrefl _ (e ▸ before p h)]
      exact ih sorted h

/-- An overlay changes every field by itself. -/
theorem overlay_eq_map (ho : (Json.object o).IsOrdered) (b : Fields) :
    overlay b o = b.map fun p => (p.1, (Fields.get? o p.1).elim p.2 (overlayValue p.2)) := by
  induction o generalizing b with
  | nil => simp [overlay]
  | cons q rest ih =>
    obtain ⟨k, r⟩ := q
    simp only [overlay]
    rw [ih ho.tail, List.map_map]
    refine List.map_congr_left fun p _ => ?_
    by_cases hp : p.1 = k
    · simp [Fields.get?_cons, hp, ho.get?_tail_head]
    · simp [Fields.get?_cons, hp]

/-- A value laid over itself is that value. -/
theorem overlayValue_self (hr : r.IsOrdered) : overlayValue r r = r := by
  induction hr with
  | object sorted each ih =>
    rename_i fs
    rw [overlayValue_object, overlay_eq_map (.object sorted each)]
    refine congrArg Json.object ((List.map_congr_left fun p hp => ?_).trans (List.map_id fs))
    rw [Fields.get?_of_mem sorted hp]
    exact Prod.ext rfl (ih p hp)
  | _ => exact overlayValue_eq_right (.inl rfl)

/-- What is laid over a value a second time changes nothing. -/
theorem overlayValue_overlayValue (hr : r.IsOrdered) (x : Json) :
    overlayValue (overlayValue x r) r = overlayValue x r := by
  induction hr generalizing x with
  | object sorted each ih =>
    rename_i o
    cases hx : x.fields? with
    | none => rw [overlayValue_eq_right (.inl hx), overlayValue_self (.object sorted each)]
    | some b =>
      obtain rfl := fields?_eq_some.1 hx
      have ordered : (Json.object o).IsOrdered := .object sorted each
      simp only [overlayValue_object, overlay_eq_map ordered, List.map_map]
      refine congrArg Json.object (List.map_congr_left fun p _ => ?_)
      cases hp : Fields.get? o p.1 with
      | none => simp [hp]
      | some z => simpa [hp] using ih (p.1, z) (Fields.mem_of_get? hp) p.2
  | _ => rw [overlayValue_eq_right (.inr rfl), overlayValue_eq_right (.inr rfl)]

/-! ## Down a path -/

theorem descend_cons_eq_some {s : String} {t : List String} :
    descend (s :: t) x = some z ↔
      ∃ fs y, x = .object fs ∧ Fields.get? fs s = some y ∧ descend t y = some z := by
  rw [descend_cons]
  constructor
  · intro h
    obtain ⟨y, hy, h⟩ := Option.bind_eq_some_iff.1 h
    obtain ⟨fs, hf, hy⟩ := Option.bind_eq_some_iff.1 hy
    exact ⟨fs, y, fields?_eq_some.1 hf, hy, h⟩
  · rintro ⟨fs, y, rfl, hy, h⟩
    rw [fields?_object, Option.bind_some, hy, Option.bind_some, h]

/-- Along a path that both sides have, what one side has there is laid over what the other has. -/
theorem descend_overlayValue (hr : r.IsOrdered) (hx : descend path x = some y)
    (ho : descend path r = some z) : descend path (overlayValue x r) = some (overlayValue y z) := by
  induction path generalizing x r with
  | nil =>
    cases hx
    cases ho
    rfl
  | cons s t ih =>
    obtain ⟨b, x', rfl, hb, hx⟩ := descend_cons_eq_some.1 hx
    obtain ⟨o, r', rfl, hf, ho⟩ := descend_cons_eq_some.1 ho
    rw [overlayValue_object]
    refine descend_cons_eq_some.2 ⟨_, overlayValue x' r', rfl, ?_, ih (hr.of_get? hf) hx ho⟩
    rw [get?_overlay hr, hb, hf]
    rfl

/-- Whether a value says nothing of what a path leads to: on the way through its objects, a name of
the path is missing. -/
def IsSilentOn : List String → Json → Prop
  | [], _ => False
  | s :: t, r => ∃ o, r = .object o ∧ ∀ z, Fields.get? o s = some z → IsSilentOn t z

theorem IsSilentOn.descend_eq_none (h : IsSilentOn path r) : descend path r = none := by
  induction path generalizing r with
  | nil => cases h
  | cons s t ih =>
    obtain ⟨o, rfl, below⟩ := h
    rw [descend_cons, fields?_object, Option.bind_some]
    cases hz : Fields.get? o s with
    | none => rfl
    | some z => exact ih (below z hz)

/-- Where an overlay says nothing, everything is as without it. -/
theorem IsSilentOn.descend_overlayValue (h : IsSilentOn path r) (hr : r.IsOrdered) (x : Json) :
    descend path (overlayValue x r) = descend path x := by
  induction path generalizing x r with
  | nil => cases h
  | cons s t ih =>
    have nowhere := h.descend_eq_none
    obtain ⟨o, rfl, below⟩ := h
    cases hx : x.fields? with
    | none => rw [overlayValue_eq_right (.inl hx), nowhere, descend_cons, hx]; rfl
    | some b =>
      obtain rfl := fields?_eq_some.1 hx
      rw [overlayValue_object, descend_cons, descend_cons]
      simp only [fields?_object, Option.bind_some, get?_overlay hr]
      cases Fields.get? b s with
      | none => rfl
      | some y =>
        cases hz : Fields.get? o s with
        | none => rfl
        | some z => exact ih (below z hz) (hr.of_get? hz) y

theorem descend_foldl_of_silent {os : List Fields} (ordered : ∀ o ∈ os, (Json.object o).IsOrdered)
    (silent : ∀ o ∈ os, IsSilentOn path (.object o)) :
    descend path (.object (os.foldl overlay b)) = descend path (.object b) := by
  induction os generalizing b with
  | nil => rfl
  | cons o os ih =>
    rw [List.forall_mem_cons] at ordered silent
    rw [List.foldl_cons, ih ordered.2 silent.2, ← overlayValue_object,
      silent.1.descend_overlayValue ordered.1]

theorem IsOrdered.of_descend (hr : r.IsOrdered) (h : descend path r = some z) : z.IsOrdered := by
  induction path generalizing r with
  | nil =>
    cases h
    exact hr
  | cons s t ih =>
    obtain ⟨fs, y, rfl, hy, h⟩ := descend_cons_eq_some.1 h
    exact ih (hr.of_get? hy) h

theorem descend_append (p q : List String) (x : Json) :
    descend (p ++ q) x = (descend p x).bind (descend q) := by
  induction p generalizing x with
  | nil => rfl
  | cons s t ih =>
    have below : descend (t ++ q) = fun y => (descend t y).bind (descend q) := funext ih
    simp only [List.cons_append, descend_cons, Option.bind_assoc, below]

theorem descend_singleton (k : String) (fs : Fields) :
    descend [k] (.object fs) = Fields.get? fs k := by
  rw [descend_cons, fields?_object, Option.bind_some]
  cases Fields.get? fs k <;> rfl

/-! ## The laws -/

/-- Whether `above` replaces `below` where both are there: they are not both objects. -/
def Replaces (above below : Json) : Prop := below.fields? = none ∨ above.fields? = none

/-- Whether some fields are those of `b` with the ones of `o` laid over them, as far as fields are
replaced and not laid over each other in turn. -/
structure IsOverlaid (b o fs : Fields) : Prop where
  names : fs.map Prod.fst = b.map Prod.fst
  kept {k : String} {x : Json} :
    Fields.get? b k = some x → Fields.get? o k = none → Fields.get? fs k = some x
  replaced {k : String} {x y : Json} : Fields.get? b k = some x → Fields.get? o k = some y →
    y.Replaces x → Fields.get? fs k = some y

theorem isOverlaid_overlay (ho : (Json.object o).IsOrdered) (b : Fields) :
    IsOverlaid b o (overlay b o) where
  names := map_fst_overlay b o
  kept hb hk := by
    rw [get?_overlay ho, hb, hk]
    rfl
  replaced hb hk replaces := by
    rw [get?_overlay ho, hb, hk]
    exact congrArg some (overlayValue_eq_right replaces)

/-- An overlay laid over an object twice is as good as once.  Wherever a path leads to objects on
both sides, the result has an object with the names of the one below, the values that the overlay
lacks, and the overlay's values where not both sides have objects again.  So, when overlays are laid
one over the other, the last one with a field counts if it replaces what it finds there. -/
theorem overlay_precedence (ho : (Json.object o).IsOrdered) :
    overlay (overlay b o) o = overlay b o ∧
      (∀ path bs os, descend path (.object b) = some (.object bs) →
        descend path (.object o) = some (.object os) →
        ∃ fs, descend path (.object (overlay b o)) = some (.object fs) ∧ IsOverlaid bs os fs) ∧
      ∀ before after path k bs os x y,
        descend path (.object (before.foldl overlay b)) = some (.object bs) →
        descend path (.object o) = some (.object os) →
        Fields.get? bs k = some x → Fields.get? os k = some y → y.Replaces x →
        (∀ q ∈ after, (Json.object q).IsOrdered ∧ IsSilentOn (path ++ [k]) (.object q)) →
        descend (path ++ [k]) (.object ((before ++ o :: after).foldl overlay b)) = some y := by
  have laid {b : Fields} {path : List String} {bs os : Fields}
      (hb : descend path (.object b) = some (.object bs))
      (hp : descend path (.object o) = some (.object os)) :
      ∃ fs, descend path (.object (overlay b o)) = some (.object fs) ∧ IsOverlaid bs os fs := by
    refine ⟨overlay bs os, ?_, isOverlaid_overlay (ho.of_descend hp) bs⟩
    rw [← overlayValue_object, ← overlayValue_object]
    exact descend_overlayValue ho hb hp
  refine ⟨?_, fun path bs os hb hp => laid hb hp, ?_⟩
  · simpa using overlayValue_overlayValue ho (.object b)
  · intro before after path k bs os x y hb hp hx hy replaces silent
    obtain ⟨fs, hf, overlaid⟩ := laid hb hp
    rw [List.foldl_append, List.foldl_cons,
      descend_foldl_of_silent (fun q hq => (silent q hq).1) fun q hq => (silent q hq).2,
      descend_append, hf, Option.bind_some, descend_singleton, overlaid.replaced hx hy replaces]

/-- The texts of a menu. -/
def menuTexts : Fields :=
  [("menu", .object [("edit", .string "Edit"), ("file", .string "File")]),
    ("title", .string "Menu")]

/-- The same texts in French, as far as there are any. -/
def frenchTexts : Fields :=
  [("extra", .string "Extra"), ("menu", .object [("file", .string "Fichier")])]

/-- One text of the menu in the French of Canada. -/
def canadianTexts : Fields := [("menu", .object [("edit", .string "Modifier")])]

/-- In French the menu has the same texts, and another one for files, also in Canada. -/
theorem overlay_precedence_menu :
    overlay (overlay menuTexts frenchTexts) frenchTexts = overlay menuTexts frenchTexts ∧
      (∃ fs, descend ["menu"] (.object (overlay menuTexts frenchTexts)) = some (.object fs) ∧
        fs.map Prod.fst = ["edit", "file"] ∧ Fields.get? fs "edit" = some (.string "Edit")) ∧
      descend ["menu", "file"] (.object ([frenchTexts, canadianTexts].foldl overlay menuTexts)) =
        some (.string "Fichier") := by
  have single (k s : String) : (Json.object [(k, .string s)]).IsOrdered :=
    .object (List.pairwise_singleton _ _) fun p hp => List.mem_singleton.1 hp ▸ .string s
  have french : (Json.object frenchTexts).IsOrdered := by
    refine .object (by decide) (List.forall_mem_cons.2 ⟨.string _, ?_⟩)
    exact List.forall_mem_cons.2 ⟨single _ _, by simp⟩
  have canadian : (Json.object canadianTexts).IsOrdered :=
    .object (by decide) (List.forall_mem_cons.2 ⟨single _ _, by simp⟩)
  have silent : IsSilentOn ["menu", "file"] (.object canadianTexts) :=
    ⟨_, rfl, fun z hz => ⟨[("edit", .string "Modifier")], (Option.some.inj hz).symm, nofun⟩⟩
  obtain ⟨twice, there, last⟩ := overlay_precedence (b := menuTexts) french
  obtain ⟨fs, hf, overlaid⟩ := there ["menu"] _ _ rfl rfl
  refine ⟨twice, ⟨fs, hf, overlaid.names, overlaid.kept rfl rfl⟩, ?_⟩
  refine last [] [canadianTexts] ["menu"] "file" _ _ (.string "File") _ rfl rfl rfl rfl
    (.inl rfl) ?_
  exact List.forall_mem_singleton.2 ⟨canadian, silent⟩

end Bxml.Json
