import Bxml.Value

/-!
# Listener interfaces

An interface names the methods a listener may be asked for, each with the kind of its result.
-/

namespace Bxml

/-- The kind of result a listener method has. -/
inductive ReturnKind
  | unit
  | bool
  | vote
  | value
deriving DecidableEq, Repr

/-- A method of a listener interface. -/
structure Method where
  name : String
  returns : ReturnKind
deriving DecidableEq, Repr

/-- A named set of methods. -/
structure Interface where
  name : String
  methods : List Method
deriving DecidableEq, Repr, Inhabited

namespace Interface

/-- The method with the given name; the first one counts. -/
def find? (i : Interface) (method : String) : Option Method :=
  i.methods.find? fun m => m.name == method

/-- The result of a method that nobody answers. -/
def defaultResult (i : Interface) (method : String) : Value :=
  match (i.find? method).map Method.returns with
  | some .vote => .vote .approve
  | some .bool => .bool false
  | _ => .null

end Interface

end Bxml
