import Bxml.Json.Overlay
import Bxml.Json.Parser
import Bxml.Resource.Basic
import Bxml.World.Op

/-!
# Resource bundles

A bundle gives values for keys, such as the texts of a language. It has a layer of its own, and for
what that does not know it falls back on its parent, if it has one. So the first layer on the way up
that knows a key decides (`Bundle.lookup_eq`). Objects and arrays of a JSON layer become
dictionaries and lists, made anew for every look-up.
-/

namespace Bxml

/-- What one bundle defines by itself. -/
inductive BundleLayer
  | map (entries : Entries Value)
  | json (fields : Json.Fields)

/-- A bundle: its own layer alone, or backed by the bundle that it falls back on. -/
inductive Bundle
  | alone (own : BundleLayer)
  | backed (own : BundleLayer) (parent : Bundle)

mutual

/-- The value that a JSON value stands for. -/
def Json.toValue : Json → World → Value × World
  | .null, w => (.null, w)
  | .bool b, w => (.bool b, w)
  | .int i, w => (.int i, w)
  | .float x, w => (.float x, w)
  | .string s, w => (.string s, w)
  | .array items, w =>
    let (vs, w) := Json.toValues items w
    let (o, w) := w.alloc (.ofItems vs)
    (.object o, w)
  | .object fields, w =>
    let (ps, w) := Json.toEntries fields w
    let (o, w) := w.alloc ⟨.dictionary ⟨Object.dictionaryType, .ofList ps, none⟩, []⟩
    (.object o, w)

/-- The values that some JSON values stand for. -/
def Json.toValues : List Json → World → List Value × World
  | [], w => ([], w)
  | j :: r, w =>
    let (v, w) := Json.toValue j w
    let (vs, w) := Json.toValues r w
    (v :: vs, w)

/-- The entries that some fields stand for. -/
def Json.toEntries : List (String × Json) → World → List (String × Value) × World
  | [], w => ([], w)
  | (k, j) :: r, w =>
    let (v, w) := Json.toValue j w
    let (ps, w) := Json.toEntries r w
    ((k, v) :: ps, w)

end

/-- What the fields of a bundle say about a key: the field of that name, else the value that its
dotted path leads to. -/
def Json.Fields.find? (fs : Json.Fields) (key : String) : Option Json :=
  match fs.get? key with
  | some j => some j
  | none => Json.descend (pathSegments key) (.object fs)

/-- The fields of the JSON object that some bytes hold; `what` names the bytes in errors. -/
def Json.readObject (what : String) (bytes : List UInt8) : Except ResourceError Json.Fields :=
  match Json.parse bytes with
  | .ok (.object fs) => .ok fs
  | .ok j => .error (.invalidFormat s!"{what} must be a JSON object, found {j.kind}")
  | .error f => .error (.invalidFormat s!"{what}: {f.message bytes}")

namespace BundleLayer

/-- Whether a layer knows a key. -/
def defines (l : BundleLayer) (key : String) : Bool :=
  match l with
  | .map entries => entries.contains key
  | .json fields => (fields.find? key).isSome

/-- The value that a layer has for a key. -/
def find? (l : BundleLayer) (key : String) : World → Option Value × World :=
  match l with
  | .map entries => fun w => (entries.get? key, w)
  | .json fields => fun w =>
    match fields.find? key with
    | some j =>
      let (v, w) := j.toValue w
      (some v, w)
    | none => (none, w)

/-- The values that a layer keeps alive. -/
def heldValues : BundleLayer → List Value
  | .map entries => entries.values
  | .json _ => []

theorem find?_of_not_defines {l : BundleLayer} {key : String} (h : l.defines key = false)
    (w : World) : l.find? key w = (none, w) := by
  cases l with
  | map entries =>
    have hn : entries.get? key = none := by
      rw [← Option.isSome_eq_false_iff.trans Option.isNone_iff_eq_none, Entries.isSome_get?]
      exact h
    simp only [find?, hn]
  | json fields =>
    have hn : fields.find? key = none := by simpa [defines] using h
    simp only [find?, hn]

/-- A layer has a value for the keys that it defines. -/
theorem find?_of_defines {l : BundleLayer} {key : String} (h : l.defines key = true) (w : World) :
    ∃ v u, l.find? key w = (some v, u) := by
  cases l with
  | map entries =>
    obtain ⟨v, hv⟩ := Option.isSome_iff_exists.1 ((entries.isSome_get? key).trans h)
    exact ⟨v, w, by rw [find?, hv]⟩
  | json fields =>
    obtain ⟨j, hj⟩ := Option.isSome_iff_exists.1 h
    simp only [find?, hj]
    exact ⟨_, _, rfl⟩

end BundleLayer

namespace Bundle

/-- The bundle with one layer of its own, falling back on another bundle. -/
def ofLayer (own : BundleLayer) (parent : Option Bundle) : Bundle :=
  match parent with
  | some p => .backed own p
  | none => .alone own

/-- A JSON text as a bundle. -/
def ofBytes (bytes : List UInt8) : Except ResourceError Bundle :=
  (Json.readObject "bundle" bytes).map fun fs => .alone (.json fs)

/-- The value of a key: what the own layer says, else what the parent says. -/
def lookup (b : Bundle) (key : String) : World → Option Value × World :=
  match b with
  | .alone own => own.find? key
  | .backed own parent => fun w =>
    match own.find? key w with
    | (some v, w) => (some v, w)
    | (none, w) => parent.lookup key w

/-- The values that a bundle keeps alive. -/
def heldValues : Bundle → List Value
  | .alone own => own.heldValues
  | .backed own parent => own.heldValues ++ parent.heldValues

/-- The layers of a bundle, its own first. -/
def layers : Bundle → List BundleLayer
  | .alone own => [own]
  | .backed own parent => own :: parent.layers

/-- The first layer on the way up that knows a key decides. -/
theorem lookup_eq (b : Bundle) (key : String) :
    b.lookup key =
      match b.layers.find? (·.defines key) with
      | some l => l.find? key
      | none => fun w => (none, w) := by
  induction b with
  | alone own =>
    funext w
    cases h : own.defines key with
    | true => simp [lookup, layers, h]
    | false => simp [lookup, layers, h, BundleLayer.find?_of_not_defines h]
  | backed own parent ih =>
    funext w
    cases h : own.defines key with
    | true =>
      obtain ⟨v, u, hv⟩ := BundleLayer.find?_of_defines h w
      simp only [lookup, layers, List.find?_cons, h, hv]
    | false =>
      simp only [lookup, layers, List.find?_cons, h, BundleLayer.find?_of_not_defines h, ih]

end Bundle

end Bxml
