import Bxml.Binary64.Text

/-!
# JSON values

Objects keep their fields sorted by name, each name once. A number is a 64-bit integer or a
floating point number.
-/

namespace Bxml

/-- A JSON value. -/
inductive Json
  | null
  | bool (b : Bool)
  | int (i : Int64)
  | float (x : Binary64)
  | string (s : String)
  | array (items : List Json)
  | object (fields : List (String × Json))
deriving Repr, Inhabited

namespace Json

/-- The fields of a JSON object. -/
abbrev Fields := List (String × Json)

/-- Stores a field at its place in the order of names; a known name takes the new value. -/
def Fields.insert (k : String) (v : Json) : Fields → Fields
  | [] => [(k, v)]
  | (q, w) :: r =>
    if k = q then (k, v) :: r
    else if k < q then (k, v) :: (q, w) :: r
    else (q, w) :: Fields.insert k v r

/-- The sorted fields of a list of pairs; of a repeated name the last value counts. -/
def Fields.ofList (l : List (String × Json)) : Fields :=
  l.foldl (fun fs p => Fields.insert p.1 p.2 fs) []

/-- The value of the field `k`. -/
def Fields.get? (fs : Fields) (k : String) : Option Json := fs.lookup k

/-- The object with the given fields. -/
def ofFields (l : List (String × Json)) : Json := .object (Fields.ofList l)

/-- The word for a kind of JSON value. -/
def kind : Json → String
  | .null => "null"
  | .bool _ => "boolean"
  | .int _ => "number"
  | .float _ => "number"
  | .string _ => "string"
  | .array _ => "array"
  | .object _ => "object"

/-- The value a dotted path leads to, one object deeper at every segment. -/
def descend : List String → Json → Option Json
  | [], v => some v
  | s :: r, .object fs =>
    match Fields.get? fs s with
    | some v => descend r v
    | none => none
  | _ :: _, _ => none

end Json

end Bxml
