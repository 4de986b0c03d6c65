import Bxml.Text.Blank
import Bxml.Url.Parser
import Bxml.Value

/-!
# Declared types

A property may declare the type of its values. Markup gives strings, so a string is read as the
declared type when the property is set. Null belongs to every type.
-/

namespace Bxml

/-- The type that a property declares. -/
inductive ValueType
  | any
  | bool
  | int
  | float
  | string
  | url
  | object
deriving DecidableEq, Repr, Inhabited

/-- The word for a type. -/
def ValueType.text : ValueType → String
  | .any => "any"
  | .bool => "bool"
  | .int => "int"
  | .float => "float"
  | .string => "string"
  | .url => "url"
  | .object => "object"

/-- The type of a word; any word that names no type leaves it open. -/
def ValueType.ofText (s : String) : ValueType :=
  ([ValueType.bool, .int, .float, .string, .url, .object].find? (·.text == s)).getD .any

/-- Why a property cannot be read or set. -/
inductive PropertyError
  | noSuchProperty (typeName property : String)
  | readOnly (typeName property : String)
  | coercion (property : String) (expected : ValueType) (found : String)
  | custom (text : String)
deriving DecidableEq, Repr

/-- The wording of a property error. -/
def PropertyError.message : PropertyError → String
  | .noSuchProperty typeName property => s!"'{property}' is not a property of {typeName}"
  | .readOnly typeName property => s!"Property '{property}' of {typeName} is read-only"
  | .coercion property expected found =>
    s!"Cannot convert '{found}' to {expected.text} for property '{property}'"
  | .custom text => text

namespace ValueType

/-- The value of the type that a string stands for. -/
def read? (t : ValueType) (s : String) : Option Value :=
  let l := Text.trimChars s.toList
  match t with
  | .any => some (.string s)
  | .bool =>
    if l = ['t', 'r', 'u', 'e'] then some (.bool true)
    else if l = ['f', 'a', 'l', 's', 'e'] then some (.bool false)
    else none
  | .int => (Text.readInt64? l).map .int
  | .float => (Binary64.ofText? l).map .float
  | .string => some (.string s)
  | .url => (Url.parse (String.ofList l)).toOption.map .url
  | .object => none

/-- The value of the type that `v` stands for. -/
def convert? (typeName : ObjectId → String) : ValueType → Value → Option Value
  | .any, v => some v
  | _, .null => some .null
  | .bool, .bool b => some (.bool b)
  | .int, .int i => some (.int i)
  | .float, .float x => some (.float x)
  | .float, .int i => some (.float (Binary64.ofInt i.toInt))
  | .string, .object _ => none
  | .string, v => some (.string (v.text typeName))
  | .url, .url u => some (.url u)
  | .object, .object o => some (.object o)
  | t, .string s => t.read? s
  | _, _ => none

/-- `v` as a value of the type, for the named property. -/
def coerce (typeName : ObjectId → String) (t : ValueType) (property : String) (v : Value) :
    Except PropertyError Value :=
  match t.convert? typeName v with
  | some w => .ok w
  | none => .error (.coercion property t (v.text typeName))

end ValueType

end Bxml
