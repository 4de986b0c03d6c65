import Bxml.World.Basic

/-!
# Tables of ids

A document collects its ids in a table. An id that is taken keeps its value. A dotted path starts
at an id and goes on through properties.
-/

namespace Bxml

/-- Why an id cannot be stored or a path leads nowhere. -/
inductive TableError
  | duplicateId (id : String)
  | undefined (path : String)
  | property (e : PropertyError)
deriving DecidableEq, Repr

/-- The wording of a table error. -/
def TableError.message : TableError → String
  | .duplicateId id => s!"ID \"{id}\" is already in use"
  | .undefined path => s!"Value \"{path}\" is not defined"
  | .property e => e.message

/-- What divides the segments of a path. -/
def pathSeparator : Char := '.'

/-- The segments of a dotted path. -/
def pathSegments (path : String) : List String :=
  (Url.Host.splitOn pathSeparator path.toList).map String.ofList

/-- The path made of some segments. -/
def joinPath (segments : List String) : String := ".".intercalate segments

namespace World

/-- Stores `v` under `id`, unless the id is taken. -/
def putId (w : World) (t : TableId) (id : String) (v : Value) : Except TableError World :=
  if (w.table t).contains id then .error (.duplicateId id)
  else .ok { w with tables := w.tables.modify t.index fun ids => ids.insert id v }

/-- Goes on from `v` through properties. Nothing, if a segment leads nowhere. -/
def follow (w : World) : Value → List String → Except PropertyError (Option Value)
  | v, [] => .ok (some v)
  | .object o, s :: r =>
    if (w.object o).hasProperty s then
      match (w.object o).getProperty s with
      | .ok v => w.follow v r
      | .error e => .error e
    else .ok none
  | _, _ :: _ => .ok none

/-- The value that some segments lead to, the first of them an id. -/
def resolveIn (w : World) (ids : Entries Value) (segments : List String) :
    Except TableError Value :=
  match segments with
  | [] => .error (.undefined (joinPath segments))
  | id :: r =>
    match ids.get? id with
    | none => .error (.undefined (joinPath segments))
    | some v =>
      match w.follow v r with
      | .ok (some u) => .ok u
      | .ok none => .error (.undefined (joinPath segments))
      | .error e => .error (.property e)

/-- The value that some segments lead to in a table. -/
def resolve (w : World) (t : TableId) (segments : List String) : Except TableError Value :=
  w.resolveIn (w.table t) segments

/-- The value that a dotted path leads to in a table. -/
def resolvePath (w : World) (t : TableId) (path : String) : Except TableError Value :=
  w.resolve t (pathSegments path)

end World

end Bxml
