import Bxml.Json.Basic

/-!
# Laying one object over another

An overlay replaces values under names that are already there and adds none. Where both sides hold
an object, the overlay is laid over that object in turn.
-/

namespace Bxml.Json

mutual

/-- `existing` with `replacement` laid over it. -/
def overlayValue (existing : Json) : Json → Json
  | .object nested =>
    match existing with
    | .object inner => .object (overlay inner nested)
    | _ => .object nested
  | r => r

/-- `target` with the fields of the second argument laid over it. -/
def overlay (target : Fields) : List (String × Json) → Fields
  | [] => target
  | (k, r) :: rest =>
    overlay (target.map fun p => if p.1 = k then (p.1, overlayValue p.2 r) else p) rest

end

mutual

/-- The names in an overlay's value that the value under it lacks. -/
def ignoredIn (existing : Json) : Json → List String
  | .object nested =>
    match existing with
    | .object inner => ignored inner nested
    | _ => []
  | _ => []

/-- The names in an overlay that its target lacks, in the order they are met. -/
def ignored (target : Fields) : List (String × Json) → List String
  | [] => []
  | (k, r) :: rest =>
    (match Fields.get? target k with
      | some existing => ignoredIn existing r
      | none => [k]) ++ ignored target rest

end

end Bxml.Json
