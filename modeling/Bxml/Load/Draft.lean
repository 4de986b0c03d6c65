import Bxml.Load.Loader

/-!
# Documents under construction

While a document is read, the open elements form a stack. Everything that is on it or was given a
parent is held until the load is over.
-/

namespace Bxml

/-- A bound attribute that waits for the document to be complete. -/
structure PendingBinding where
  target : ObjectId
  targetKey : String
  expression : String
  location : Location
deriving DecidableEq, Repr

/-- A document while it is built. -/
structure Draft where
  /-- The open elements, innermost first. -/
  stack : List Element
  /-- The value of the outermost element, once it is closed. -/
  root : Option Value
  /-- The script language of the document. -/
  language : Option String
  /-- The bindings in the order of their elements. -/
  bindings : List PendingBinding
  /-- The objects that have a parent, in this document or another one of the same load. -/
  parented : List ObjectId

namespace Draft

/-- The state before the first event. -/
def start (parented : List ObjectId) : Draft := ⟨[], none, none, [], parented⟩

/-- The values that are held while a document is built. -/
def heldValues (d : Draft) : List Value :=
  d.stack.flatMap Element.heldValues ++ d.root.toList ++
    (d.bindings.map fun p => .object p.target) ++ d.parented.map .object

/-- What is held while a document is built, with some values more. -/
def held (d : Draft) (c : DocumentContext) (more : List Value) : Held :=
  (c.held.keep (d.heldValues ++ more)).keepTable c.table

/-- The script language of the document so far. -/
def languageIn (d : Draft) (l : Loader) : String := d.language.getD l.language

/-- The document with the script language it has so far for good. -/
def settleLanguage (d : Draft) (l : Loader) : Draft :=
  { d with language := some (d.languageIn l) }

end Draft

/-- What a load leaves: the value of the root, the ids it sees and its location. -/
structure Outcome where
  root : Value
  table : TableId
  location : Option Url

/-- Loads a document inside another. It is told which objects have a parent already, and tells
which have one afterwards. -/
abbrev NestedLoad :=
  DocumentContext → List ObjectId → String → Op LoadError (Outcome × List ObjectId)

/-- Fails because of a structural fault. -/
def failAt {α : Type} (at_ : Location) (f : StructureFault) : Op LoadError α :=
  throw (.structural f at_)

/-- What there is, or a failure because of a structural fault. -/
def orFail {α : Type} (at_ : Location) (f : StructureFault) : Option α → Op LoadError α
  | some a => pure a
  | none => failAt at_ f

/-- Fails because of a structural fault unless `p`. -/
def require (at_ : Location) (f : StructureFault) (p : Bool) : Op LoadError Unit :=
  if p then pure () else failAt at_ f

/-- The object that a value is. -/
def objectOr (at_ : Location) (f : StructureFault) (v : Value) : Op LoadError ObjectId :=
  orFail at_ f v.object?

@[simp] theorem failAt_runIn {α : Type} (at_ : Location) (f : StructureFault) (w : World) :
    (failAt at_ f : Op LoadError α).runIn w = (.error (.structural f at_), w) := rfl

@[simp] theorem orFail_some {α : Type} (at_ : Location) (f : StructureFault) (a : α) :
    orFail at_ f (some a) = pure a := rfl

@[simp] theorem orFail_none {α : Type} (at_ : Location) (f : StructureFault) :
    orFail at_ f (none : Option α) = failAt at_ f := rfl

end Bxml
