import Bxml.Json.Printer
import Bxml.Load.Draft

/-!
# Values as JSON

Lists become arrays; other objects become JSON objects with their type under `@type` and a field for
every property. An object that is met inside itself becomes a reference that only names its type,
so that circles end. Objects that are met several times side by side are written out each time.
-/

namespace Bxml

/-- The field that names the type of an object. -/
def typeField : String := "@type"

/-- The field of a reference, which names the type of the object that is meant. -/
def referenceField : String := "@ref"

namespace World

/-- A reference to an object. -/
def referenceTo (w : World) (o : ObjectId) : Json :=
  .ofFields [(referenceField, .string (w.typeName o))]

/-- A value that is no object as JSON. -/
def scalarJson : Value → Json
  | .bool b => .bool b
  | .int i => .int i
  | .float x => if x.isFinite then .float x else .null
  | .string s => .string s
  | .url u => .string u.text
  | .vote v => .string v.text
  | .null | .object _ => .null

/-- The value of a property, null where there is none to read. -/
def propertyValue (w : World) (o : ObjectId) (name : String) : Value :=
  ((w.object o).getProperty name).toOption.getD .null

/-- What renders a value knows the objects that are in progress. It gives nothing if objects are met
inside each other more often than it allows for. -/
abbrev Rendering := StateT (List ObjectId) Option

/-- Renders a value, with at most `n` objects inside each other. An object is in progress while the
values inside it are rendered; what is met in progress is only referred to. -/
def render (w : World) : Nat → Value → Rendering Json
  | 0, .object _ => failure
  | n + 1, .object o => do
    let busy ← get
    if busy.contains o then return w.referenceTo o
    else
      set (o :: busy)
      let json ← match (w.object o).sequence? with
        | some items => do
          let parts ← items.mapM (w.render n)
          pure (.array parts)
        | none => do
          let fields ← (w.object o).propertyNames.mapM fun name => do
            let part ← w.render n (w.propertyValue o name)
            pure (name, part)
          pure (.ofFields ((typeField, .string (w.typeName o)) :: fields))
      set ((← get).erase o)
      return json
  | _, v => return scalarJson v

/-- A value as JSON while the objects of `path` are in progress. No more objects are inside each
other than there are, but for a last one that is only referred to. -/
def toJsonIn (w : World) (path : List ObjectId) (v : Value) : Json :=
  ((w.render (w.objects.size + 1) v).run path).elim .null Prod.fst

/-- A value as JSON. -/
def toJson (w : World) (v : Value) : Json := w.toJsonIn [] v

/-- An id of a document as JSON: an object is only referred to. -/
def idJson (w : World) : Value → Json
  | .object o => w.referenceTo o
  | v => w.toJson v

/-- What a load left as JSON. -/
def outcomeJson (w : World) (x : Outcome) : Json :=
  .ofFields [
    ("location", (x.location.map fun u => Json.string u.text).getD .null),
    ("root", w.toJson x.root),
    ("ids", .ofFields ((w.table x.table).map w.idJson).toList)]

end World

end Bxml
