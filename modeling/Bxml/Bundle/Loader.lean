import Bxml.Bundle.Basic
import Bxml.Locale

/-!
# Loading bundles

The bundle `a.b.C` is read from `a/b/C.json` below the root of its loader. A locale has the files
`C_en.json` and `C_en_GB.json` laid over it, as far as they exist.
-/

namespace Bxml

/-- What is needed to load bundles by name. -/
structure BundleLoader where
  provider : ResourceProvider
  root : Url
  locale : Option Locale

namespace BundleLoader

/-- The path of the file of a bundle. -/
def path (name suffix : String) : String :=
  String.ofList (name.toList.map fun c => if c == pathSeparator then '/' else c) ++ suffix ++
    ".json"

/-- The URL of the file of a bundle. -/
def location (l : BundleLoader) (name suffix : String) : Except ResourceError Url :=
  match l.root.join (path name suffix) with
  | .ok u => .ok u
  | .error e => .error (.invalidFormat s!"{name}: {e.message}")

/-- `fields` with others laid over them. -/
def layOver (fields above : Json.Fields) : Op ResourceError Json.Fields := do
  (Json.ignored fields above).forM fun k =>
    Op.log .debug s!"Ignoring override for undefined bundle key '{k}'"
  return Json.overlay fields above

/-- Some fields with the overlay of one suffix laid over them, if its file exists. -/
def applyOverlay (l : BundleLoader) (name : String) (fields : Json.Fields) (suffix : String) :
    Op ResourceError Json.Fields := do
  let u ← Op.ofExcept (l.location name suffix)
  if l.provider.serves u then
    Op.log .debug s!"Applying bundle overlay {u.text}"
    let bytes ← Op.ofExcept (l.provider.load u)
    let above ← Op.ofExcept (Json.readObject u.text bytes)
    layOver fields above
  else return fields

/-- Loads a bundle by its name, falling back on `parent`. -/
def load (l : BundleLoader) (name : String) (parent : Option Bundle) :
    Op ResourceError Bundle := do
  let u ← Op.ofExcept (l.location name "")
  let bytes ← Op.ofExcept (l.provider.load u)
  let fields ← Op.ofExcept (Json.readObject "bundle" bytes)
  let suffixes := (l.locale.map Locale.suffixes).getD []
  let fields ← suffixes.foldlM (l.applyOverlay name) fields
  return .ofLayer (.json fields) parent

end BundleLoader

end Bxml
