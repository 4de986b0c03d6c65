import Bxml.Json.Basic

/-!
# Looking into JSON values

Readers that expect one kind of value and take any other kind for nothing.
-/

namespace Bxml.Json

/-- The field `k` of an object; null is as good as no field. -/
def field? (j : Json) (k : String) : Option Json :=
  match j with
  | .object fs =>
    match Fields.get? fs k with
    | some .null => none
    | v => v
  | _ => none

def string? : Json → Option String
  | .string s => some s
  | _ => none

def bool? : Json → Option Bool
  | .bool b => some b
  | _ => none

def items : Json → List Json
  | .array l => l
  | _ => []

def fields : Json → Fields
  | .object fs => fs
  | _ => []

/-- The strings among the items of an array. -/
def strings (j : Json) : List String := j.items.filterMap string?

/-- The pairs among the items of an array: arrays of a name and a value. -/
def pairs (j : Json) : List (String × Json) :=
  j.items.filterMap fun p =>
    match p with
    | .array [.string k, v] => some (k, v)
    | _ => none

end Bxml.Json
