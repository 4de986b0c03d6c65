import Bxml.World.Basic

/-!
# What is kept alive

An object lives as long as something refers to it: a value held from outside, an id of a held
table, or another living object. An object to which nothing refers is gone, and with it its own
references; objects that refer to each other in a circle stay.
-/

namespace Bxml

/-- What is held from outside. -/
structure Held where
  values : List Value
  tables : List TableId

namespace Held

/-- Nothing. -/
def nothing : Held := ⟨[], []⟩

/-- What is held, and some values more. -/
def keep (h : Held) (vs : List Value) : Held := { h with values := vs ++ h.values }

/-- What is held, and a table more. -/
def keepTable (h : Held) (t : TableId) : Held := { h with tables := t :: h.tables }

end Held

namespace World

/-- The values that are referred to from outside. -/
def rootValues (w : World) (h : Held) : List Value :=
  h.values ++ h.tables.flatMap fun t => (w.table t).values

/-- Marks the objects that some values refer to. -/
def mark (marks : Array Bool) (vs : List Value) : Array Bool :=
  vs.foldl (fun m v =>
    match v with
    | .object o => m.setIfInBounds o.index true
    | _ => m) marks

/-- The objects that are still referred to when only the given ones refer. -/
def referred (w : World) (h : Held) (alive : Array Bool) : Array Bool :=
  let none := Array.replicate w.objects.size false
  let roots := mark none (w.rootValues h)
  (w.objects.toList.zip alive.toList).foldl (fun m p =>
    if p.2 then mark m p.1.heldValues else m) roots

/-- Drops what nothing refers to until everything is referred to. -/
def peel (w : World) (h : Held) : Nat → Array Bool → Array Bool
  | 0, alive => alive
  | n + 1, alive =>
    let next := w.referred h alive
    if next == alive then alive else peel w h n next

/-- Whether an object lives. -/
def isAlive (w : World) (h : Held) (o : ObjectId) : Bool :=
  (w.peel h w.objects.size (Array.replicate w.objects.size true)).getD o.index false

end World

end Bxml
