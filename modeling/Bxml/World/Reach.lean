import Bxml.World.Basic

/-!
# What a value leads to

The objects that a reader can come to from a value through readable properties and items
(`World.reachable`).  Nothing in the library calls it: loading, the command line and the theory do
without.  It is for programs that use the library and show what they have loaded.
-/

namespace Bxml

/-- The values that can be read from an object: those of its properties, then its items. -/
def Object.parts (x : Object) : List Value :=
  x.propertyNames.filterMap (fun name => (x.getProperty name).toOption) ++ x.sequence?.getD []

/-- Some objects with those among `vs` that they lack, each once. -/
def addObjects (found : List ObjectId) (vs : List Value) : List ObjectId :=
  (vs.filterMap Value.object?).foldl (fun l o => if l.contains o then l else l ++ [o]) found

namespace World

/-- The objects found so far and, from number `next` on, what those lead to, one object after the
other. -/
def reach (w : World) : Nat → Nat → List ObjectId → List ObjectId
  | 0, _, found => found
  | fuel + 1, next, found =>
    match found[next]? with
    | some o => w.reach fuel (next + 1) (addObjects found (w.object o).parts)
    | none => found

/-- The objects that a value leads to, nearest first, each once. No more objects than there are can
be found, so this is all of them. -/
def reachable (w : World) (v : Value) : List ObjectId :=
  w.reach w.objects.size 0 (addObjects [] [v])

end World

end Bxml
