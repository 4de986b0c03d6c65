import Bxml.Bundle.Loader
import Bxml.Json.Printer
import Bxml.Proofs.Json.Overlay
import Bxml.Proofs.Load.Errors
import Bxml.Resource.Memory
import Mathlib.Data.List.ReduceOption

/-!
# Bundles and locales

What a bundle is depends on its name and on the files, and on nothing that happened before. A
locale changes the values of a bundle. It does not change which keys there are, except along a
path on which an overlay has an object and the bundle has none, or the other way round.

* `Op.Gives` says that an operation has one result whatever the world is, with a lemma for each way
  to build operations; `BundleLoader.load_gives` is that for bundles.
* `load_eq_ok` gives the fields of a loaded bundle: those of its file (`base`) with the overlays of
  the locale laid over them (`overlays`).
* `find?_of_load` compares a loader with and without a locale.  It excepts the keys along whose path
  the shapes differ (`Json.clash?`), and `find?_of_load_reshaped` is a bundle in which one key is
  lost and another one new.
-/

namespace Bxml

/-- Whatever world an operation runs in, it gives one result. -/
def Op.Gives {ε α : Type} (x : Op ε α) (r : Except ε α) : Prop := ∀ w, (x.runIn w).1 = r

section Gives

variable {ε α β : Type}

theorem Op.Gives.pure (a : α) : (Pure.pure a : Op ε α).Gives (.ok a) := fun _ => rfl

theorem Op.Gives.ofExcept (r : Except ε α) : (Op.ofExcept r).Gives r := fun _ => rfl

theorem Op.Gives.log (level : Level) (text : String) : (Op.log level text : Op ε Unit).Gives (.ok ()) :=
  fun _ => rfl

theorem Op.Gives.bind {x : Op ε α} {r : Except ε α} {f : α → Op ε β} {s : α → Except ε β}
    (hx : x.Gives r) (hf : ∀ a, (f a).Gives (s a)) : (x >>= f).Gives (r >>= s) := by
  intro w
  rw [Op.bind_runIn, ← hx w]
  rcases x.runIn w with ⟨e | a, v⟩
  · rfl
  · exact hf a v

theorem Op.Gives.forM {l : List α} {f : α → Op ε Unit} (h : ∀ a, (f a).Gives (.ok ())) :
    (l.forM f).Gives (.ok ()) := by
  induction l with
  | nil => exact .pure ()
  | cons a r ih => exact (h a).bind fun _ => ih

theorem Op.Gives.foldlM {l : List α} {f : β → α → Op ε β} {s : β → α → Except ε β}
    (h : ∀ b a, (f b a).Gives (s b a)) (b : β) : (l.foldlM f b).Gives (l.foldlM s b) := by
  induction l generalizing b with
  | nil => exact .pure b
  | cons a r ih => exact (h b a).bind ih

end Gives

namespace BundleLoader

variable (l : BundleLoader) (name : String)

/-- What the file of a bundle holds. -/
def base : Except ResourceError Json.Fields := do
  let u ← l.location name ""
  let bytes ← l.provider.load u
  Json.readObject "bundle" bytes

/-- What the file of an overlay holds, if there is such a file. -/
def overlay? (suffix : String) : Except ResourceError (Option Json.Fields) := do
  let u ← l.location name suffix
  if l.provider.serves u then
    let bytes ← l.provider.load u
    let above ← Json.readObject u.text bytes
    return some above
  else return none

/-- The suffixes of the overlays that the locale asks for. -/
def suffixes : List String := (l.locale.map Locale.suffixes).getD []

/-- The overlays of a bundle, in the order in which they are laid over it. -/
def overlays : Except ResourceError (List Json.Fields) := do
  let found ← l.suffixes.mapM (l.overlay? name)
  return found.reduceOption

/-- What a bundle defines by itself. -/
def fields : Except ResourceError Json.Fields := do
  let base ← l.base name
  let overlays ← l.overlays name
  return overlays.foldl Json.overlay base

variable {l name}

theorem applyOverlay_gives (fs : Json.Fields) (suffix : String) :
    (l.applyOverlay name fs suffix).Gives
      ((l.overlay? name suffix).map fun o => o.elim fs (Json.overlay fs)) := by
  have located : (l.applyOverlay name fs suffix).Gives (do
      let u ← l.location name suffix
      if l.provider.serves u then
        let bytes ← l.provider.load u
        let above ← Json.readObject u.text bytes
        return Json.overlay fs above
      else return fs) := by
    refine .bind (.ofExcept _) fun u => ?_
    split
    · exact .bind (.log _ _) fun _ => .bind (.ofExcept _) fun _ => .bind (.ofExcept _) fun _ =>
        .bind (.forM fun _ => .log _ _) fun _ => .pure _
    · exact .pure fs
  intro w
  rw [located w, overlay?]
  rcases l.location name suffix with _ | u
  · rfl
  change (if l.provider.serves u then _ else _) = Except.map _ (if l.provider.serves u then _ else _)
  split
  · rcases l.provider.load u with _ | bytes
    · rfl
    · change (Json.readObject u.text bytes >>= _) = Except.map _ (Json.readObject u.text bytes >>= _)
      rcases Json.readObject u.text bytes with _ | above <;> rfl
  · rfl

/-- Reading the overlays one by one is the same as reading all of them first. -/
theorem foldlM_overlay? (suffixes : List String) (fs : Json.Fields) :
    suffixes.foldlM (fun fs suffix =>
        (l.overlay? name suffix).map fun o => o.elim fs (Json.overlay fs)) fs =
      (suffixes.mapM (l.overlay? name)).map fun found =>
        found.reduceOption.foldl Json.overlay fs := by
  induction suffixes generalizing fs with
  | nil => rfl
  | cons s r ih =>
    rw [List.foldlM_cons, List.mapM_cons]
    rcases l.overlay? name s with e | o
    · rfl
    change r.foldlM _ (o.elim fs (Json.overlay fs)) =
      Except.map _ (r.mapM (l.overlay? name) >>= fun found => pure (o :: found))
    rw [ih]
    rcases r.mapM (l.overlay? name) with e | found
    · rfl
    · cases o <;> rfl

/-- A bundle is the same whenever it is loaded. -/
theorem load_gives (parent : Option Bundle) :
    (l.load name parent).Gives ((l.fields name).map fun fs => .ofLayer (.json fs) parent) := by
  have read : (l.load name parent).Gives (do
      let u ← l.location name ""
      let bytes ← l.provider.load u
      let fs ← Json.readObject "bundle" bytes
      let fs ← l.suffixes.foldlM (fun fs suffix =>
        (l.overlay? name suffix).map fun o => o.elim fs (Json.overlay fs)) fs
      return .ofLayer (.json fs) parent) :=
    .bind (.ofExcept _) fun _ => .bind (.ofExcept _) fun _ => .bind (.ofExcept _) fun _ =>
      .bind (.foldlM applyOverlay_gives _) fun _ => .pure _
  intro w
  rw [read w]
  simp only [fields, base, overlays, foldlM_overlay?]
  rcases l.location name "" with _ | u
  · rfl
  change (l.provider.load u >>= _) = Except.map _ ((l.provider.load u >>= _) >>= _)
  rcases l.provider.load u with _ | bytes
  · rfl
  change (Json.readObject "bundle" bytes >>= _) = Except.map _ (Json.readObject "bundle" bytes >>= _)
  rcases Json.readObject "bundle" bytes with _ | fs
  · rfl
  change (Except.map _ (l.suffixes.mapM (l.overlay? name)) >>= _) =
    Except.map _ ((l.suffixes.mapM (l.overlay? name) >>= _) >>= _)
  rcases l.suffixes.mapM (l.overlay? name) with _ | found <;> rfl

/-! ### Locales -/

theorem isOrdered_of_readObject {what : String} {bytes : List UInt8} {fs : Json.Fields}
    (h : Json.readObject what bytes = .ok fs) : (Json.object fs).IsOrdered := by
  unfold Json.readObject at h
  split at h
  · next hp => exact Except.ok.inj h ▸ Json.isOrdered_of_parse hp
  · cases h
  · cases h

theorem isOrdered_of_overlay? {suffix : String} {o : Json.Fields}
    (h : l.overlay? name suffix = .ok (some o)) : (Json.object o).IsOrdered := by
  obtain ⟨u, -, h⟩ := except_bind_eq_ok.1 h
  split at h
  · obtain ⟨bytes, -, h⟩ := except_bind_eq_ok.1 h
    obtain ⟨above, ho, h⟩ := except_bind_eq_ok.1 h
    obtain rfl := Option.some.inj (Except.ok.inj h)
    exact isOrdered_of_readObject ho
  · cases Except.ok.inj h

theorem isOrdered_of_mapM {suffixes : List String} {found : List (Option Json.Fields)}
    (h : suffixes.mapM (l.overlay? name) = .ok found) :
    ∀ o, some o ∈ found → (Json.object o).IsOrdered := by
  induction suffixes generalizing found with
  | nil =>
    obtain rfl := Except.ok.inj h
    simp
  | cons s r ih =>
    rw [List.mapM_cons] at h
    obtain ⟨o, ho, h⟩ := except_bind_eq_ok.1 h
    obtain ⟨rest, hr, h⟩ := except_bind_eq_ok.1 h
    obtain rfl := Except.ok.inj h
    intro o' hm
    obtain rfl | hm := List.mem_cons.1 hm
    · exact isOrdered_of_overlay? ho
    · exact ih hr o' hm

theorem isOrdered_of_overlays {os : List Json.Fields} (h : l.overlays name = .ok os) :
    ∀ o ∈ os, (Json.object o).IsOrdered := by
  obtain ⟨found, hm, h⟩ := except_bind_eq_ok.1 h
  obtain rfl := Except.ok.inj h
  exact fun o ho => isOrdered_of_mapM hm o (List.reduceOption_mem_iff.1 ho)

/-- The file of a bundle does not depend on the locale. -/
theorem base_of_locale (l : BundleLoader) (locale : Option Locale) :
    { l with locale := locale }.base name = l.base name := by
  simp only [base, location]

theorem overlays_of_no_locale (h : l.locale = none) : l.overlays name = .ok [] := by
  unfold overlays suffixes
  rw [h]
  rfl

/-- What is loaded is the file of the bundle with the overlays of the locale laid over it. -/
theorem load_eq_ok {parent : Option Bundle} {b : Bundle} {w v : World}
    (h : (l.load name parent).runIn w = (.ok b, v)) :
    ∃ base os, l.base name = .ok base ∧ l.overlays name = .ok os ∧
      b = .ofLayer (.json (os.foldl Json.overlay base)) parent := by
  have given := (load_gives parent w).symm.trans (congrArg Prod.fst h)
  cases hf : l.fields name with
  | error e => simp [hf, Except.map] at given
  | ok fs =>
    rw [hf] at given
    obtain rfl := Except.ok.inj given
    obtain ⟨base, hb, hf⟩ := except_bind_eq_ok.1 hf
    obtain ⟨os, ho, hf⟩ := except_bind_eq_ok.1 hf
    obtain rfl := Except.ok.inj hf
    exact ⟨base, os, hb, ho, rfl⟩

/-- A bundle that is loaded with a locale and without it defines the same keys by itself: those
that are names of fields, and all others along whose paths no overlay of the locale has an object
where the bundle has none or the other way round. -/
theorem find?_of_load {parent : Option Bundle} {b b' : Bundle} {w v w' v' : World}
    (h : (l.load name parent).runIn w = (.ok b, v))
    (h' : ({ l with locale := none }.load name parent).runIn w' = (.ok b', v')) :
    ∃ own base os, l.base name = .ok base ∧ l.overlays name = .ok os ∧
      b = .ofLayer (.json own) parent ∧ b' = .ofLayer (.json base) parent ∧
      ∀ key, (Json.Fields.get? base key = none → ∀ o ∈ os,
          Json.clash? (pathSegments key) (.object base) (.object o) = none) →
        (own.find? key).isSome = (base.find? key).isSome := by
  obtain ⟨base, os, hbase, hos, rfl⟩ := load_eq_ok h
  obtain ⟨base', os', hbase', hos', rfl⟩ := load_eq_ok h'
  rw [base_of_locale] at hbase'
  obtain rfl := Except.ok.inj (hbase'.symm.trans hbase)
  obtain rfl : os' = [] := Except.ok.inj (hos'.symm.trans (overlays_of_no_locale rfl))
  exact ⟨_, _, os, hbase, hos, rfl, rfl, fun key => Json.isSome_find?_foldl (isOrdered_of_overlays hos)⟩

/-- A loader of bundles that finds some JSON values under their paths. -/
def serving (files : List (String × Json)) (locale : Option Locale) : BundleLoader where
  provider :=
    let store := files.foldl (fun s f => s.insert { Url.fileRoot with path := f.1.toList }
      (Url.utf8 (f.2.write .compact 0))) MemoryStore.empty
    store.provider
  root := .fileRoot
  locale := locale

/-- The French of Canada. -/
def canadian : Locale := .of "fr" (some "CA")

/-- The bundle of a menu. -/
def menu : Json :=
  .object [("file", .object [("close", .string "Close"), ("open", .string "Open")]),
    ("title", .string "Menu")]

/-- The menu with overlays of its shape. -/
def menuFiles : List (String × Json) :=
  [("/Menu.json", menu),
    ("/Menu_fr.json", .object [("edit", .object [("cut", .string "Couper")]),
      ("file", .object [("open", .string "Ouvrir")])]),
    ("/Menu_fr_CA.json", .object [("file", .object [("close", .string "Fermer")])])]

/-- In the menu, `file.open` stays defined and `edit.cut` stays undefined. -/
theorem find?_of_load_menu : ∃ b b' v v',
    ((serving menuFiles (some canadian)).load "Menu" none).runIn .empty = (.ok b, v) ∧
      ((serving menuFiles none).load "Menu" none).runIn .empty = (.ok b', v') ∧
      ∃ own base, b = .ofLayer (.json own) none ∧ b' = .ofLayer (.json base) none ∧
        (own.find? "file.open").isSome = true ∧ (base.find? "file.open").isSome = true ∧
        (own.find? "edit.cut").isSome = false ∧ (base.find? "edit.cut").isSome = false := by
  let l := serving menuFiles (some canadian)
  have loaded : (l.load "Menu" none).succeeds .empty (fun _ _ => true) = true := by
    decide +kernel
  have loaded' : ({ l with locale := none }.load "Menu" none).succeeds .empty (fun _ _ => true) =
      true := by
    decide +kernel
  obtain ⟨b, v, h, -⟩ := Op.exists_of_succeeds loaded
  obtain ⟨b', v', h', -⟩ := Op.exists_of_succeeds loaded'
  obtain ⟨own, base, os, hb, ho, rfl, rfl, same⟩ := find?_of_load h h'
  let alike (key : String) (base : Json.Fields) (os : List Json.Fields) : Bool :=
    os.all fun o => (Json.clash? (pathSegments key) (.object base) (.object o)).isNone
  have kept (key : String) (ha : alike key base os = true) :
      (own.find? key).isSome = (base.find? key).isSome :=
    same key fun _ o hm => Option.isNone_iff_eq_none.1 (List.all_eq_true.1 ha o hm)
  have checked : ((l.base "Menu").toOption.bind fun base => (l.overlays "Menu").toOption.map fun os =>
      (base.find? "file.open").isSome && !(base.find? "edit.cut").isSome &&
        alike "file.open" base os && alike "edit.cut" base os) = some true := by
    decide +kernel
  rw [hb, ho] at checked
  simp only [Except.toOption, Option.bind_some, Option.map_some, Option.some.injEq,
    Bool.and_eq_true, Bool.not_eq_true'] at checked
  obtain ⟨⟨⟨opened, uncut⟩, alongOpen⟩, alongCut⟩ := checked
  exact ⟨_, _, v, v', h, h', own, base, rfl, rfl, (kept _ alongOpen).trans opened, opened,
    (kept _ alongCut).trans uncut, uncut⟩

/-- The menu with an overlay of another shape. -/
def reshapedFiles : List (String × Json) :=
  [("/Menu.json", menu),
    ("/Menu_fr.json", .object [("file", .string "Fichier"),
      ("title", .object [("short", .string "Menu")])])]

/-- With that overlay, `file.open` is lost and `title.short` is new. -/
theorem find?_of_load_reshaped :
    ((serving reshapedFiles none).load "Menu" none).succeeds .empty (fun b _ =>
        b.layers.any (·.defines "file.open") && !b.layers.any (·.defines "title.short")) = true ∧
      ((serving reshapedFiles (some canadian)).load "Menu" none).succeeds .empty (fun b _ =>
        !b.layers.any (·.defines "file.open") && b.layers.any (·.defines "title.short")) = true := by
  constructor <;> decide +kernel

end BundleLoader

end Bxml
