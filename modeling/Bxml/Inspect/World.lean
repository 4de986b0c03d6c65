import Bxml.Bundle.Basic
import Bxml.Inspect.Basic
import Bxml.Load.Loader
import Bxml.Types.Registry

/-!
# Objects, tables and settings for people who look for faults

How objects, tables of ids, types, engines, bundles and loaders are shown.
-/

namespace Bxml

/-- Strings in quotes, sorted. -/
def Inspect.sortedNames (names : List String) : String :=
  Inspect.list ((names.mergeSort fun a b => decide (a ≤ b)).map Text.quoted)

/-- What stands around the content of something that can change. -/
def Inspect.cell (content : String) : String := Inspect.record "RefCell" [("value", content)]

namespace World

/-- Entries as a map of shown values. -/
def inspectEntries (w : World) (m : Entries Value) : String :=
  Inspect.map (m.map (·.inspect w.typeName)).toList

/-- An object. -/
def inspectObject (w : World) (o : ObjectId) : String :=
  let x := w.object o
  match x.content with
  | .bean b =>
    let values := b.slots.toList.filterMap fun p =>
      p.2.value?.map fun v => (p.1, v.inspect w.typeName)
    Inspect.record "Bean" [("type", Text.quoted b.typeName), ("values", Inspect.map values)]
  | .dictionary d =>
    Inspect.record "Dictionary" [
      ("type_name", Text.quoted d.typeName),
      ("entries", Inspect.cell (w.inspectEntries d.entries)),
      ("notifier", Inspect.record "ChangeNotifier" [("subscribers", toString x.subscribers.length)])]
  | .list items =>
    Inspect.record "ObjectList"
      [("items", Inspect.cell (Inspect.list (items.map (·.inspect w.typeName))))]

/-- A table of ids. -/
def inspectTable (w : World) (t : TableId) : String := w.inspectEntries (w.table t)

/-- A layer of a bundle, over a parent that is shown already. -/
def inspectLayer (w : World) (parent : Option String) : BundleLayer → String
  | .map entries =>
    Inspect.record "MapResourceBundle" [
      ("values", w.inspectEntries entries),
      ("parent", Inspect.option parent)]
  | .json fields =>
    Inspect.record "JsonResourceBundle" [
      ("keys", Inspect.list (fields.map fun p => Text.quoted p.1)),
      ("has_parent", Value.boolText parent.isSome)]

/-- A bundle. -/
def inspectBundle (w : World) : Bundle → String
  | .alone own => w.inspectLayer none own
  | .backed own parent => w.inspectLayer (some (w.inspectBundle parent)) own

end World

/-- A handle on a table that does not keep it alive. -/
def inspectWeakTable (alive : Bool) : String :=
  Inspect.record "WeakNamespace" [("alive", Value.boolText alive)]

/-- A declared type. -/
def TypeDescriptor.inspect (d : TypeDescriptor) : String :=
  Inspect.record "TypeDescriptor" [
    ("name", Text.quoted d.name),
    ("properties", Inspect.list (d.properties.keys.map Text.quoted)),
    ("default_property", Inspect.option (d.defaultProperty.map Text.quoted)),
    ("id_property", Inspect.option (d.idProperty.map Text.quoted))]

/-- The registered types. -/
def TypeRegistry.inspect (r : TypeRegistry) : String :=
  Inspect.record "TypeRegistry" [
    ("types", Inspect.sortedNames r.constructors.keys),
    ("attached", Inspect.sortedNames r.attachedNames)]

/-- The known script languages. -/
def Languages.inspect (l : Languages) : String :=
  Inspect.record "ScriptEngineManager" [("languages", Inspect.sortedNames l.byName.keys)]

/-- The settings of a loader. -/
def Loader.inspect (l : Loader) : String :=
  Inspect.record "BxmlLoader" [
    ("resource_provider", Text.quoted l.provider.name),
    ("charset", Text.quoted l.charset.name),
    ("root_location", Text.quoted l.rootLocation.text),
    ("default_language", Text.quoted l.language),
    ("max_include_depth", toString l.maxDepth)]

end Bxml
