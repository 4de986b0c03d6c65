import Bxml.Load.Attribute
import Bxml.Load.Draft
import Bxml.Text.Blank

/-!
# Composition

A closed element hands its value to its parent: a property takes it as its value, any other parent
that holds an object takes it as a child, through its default property or as an item of a list.
Inside a definition nothing is handed on. An object is given a parent only once.
-/

namespace Bxml

/-- Gives a parent to a value, if it is an object. Fails if it has one. -/
def adopt (v : Value) (at_ : Location) (parented : List ObjectId) :
    Op LoadError (List ObjectId) := do
  match v with
  | .object o =>
    let name ← Op.typeName o
    require at_ (.alreadyParented name) !parented.contains o
    return o :: parented
  | _ => return parented

/-- Adds a value to an object: to the list in its default property, as the value of its default
property, or as an item if it is a list itself. -/
def addChild (l : Loader) (h : Held) (o : ObjectId) (v : Value) (at_ : Location) :
    Op LoadError Unit := do
  let x ← Op.read (·.object o)
  match x.defaultProperty with
  | some property => do
    let current ← (Op.ofExcept (x.getProperty property)).mapError .property
    let list ← Op.read fun w =>
      current.object?.filter fun p => (w.object p).sequence?.isSome
    match list with
    | some p => Op.change (·.append p v)
    | none => (l.host.setProperty h o property v).mapError .property
  | none =>
    if x.sequence?.isSome then Op.change (·.append o v)
    else failAt at_ (.isNoContainer x.typeName)

/-- Who takes the value of a closed element: the open element around it, as its own value, or an
object, as a child. -/
inductive Receiver
  | element
  | object (o : ObjectId)
deriving DecidableEq, Repr

/-- Who takes the value of an element that is closed inside the given open elements, if anybody
does. -/
def receiver? (stack : List Element) (at_ : Location) : Except LoadError (Option Receiver) :=
  match stack with
  | [] => .ok none
  | parent :: _ =>
    if parent.kind.takesValue then .ok (some .element)
    else if parent.kind = .definition then .ok none
    else
      match parent.value with
      | .null => .ok none
      | .object o => .ok (some (.object o))
      | v => .error (.structural (.valueIsNoContainer v.kind) at_)

/-- Gives the innermost open element a value. -/
def Draft.setValue (d : Draft) (v : Value) : Draft :=
  match d.stack with
  | [] => d
  | parent :: outer => { d with stack := { parent with value := v } :: outer }

/-- Hands a value to its receiver. -/
def Receiver.take (l : Loader) (h : Held) (d : Draft) (v : Value) (at_ : Location) :
    Receiver → Op LoadError Draft
  | .element => return d.setValue v
  | .object o => do
    addChild l h o v at_
    return d

/-- Hands the value of a closed element to its parent, if that takes it and the value has none. -/
def compose (l : Loader) (c : DocumentContext) (d : Draft) (e : Element) :
    Op LoadError Draft := do
  match ← Op.ofExcept (receiver? d.stack e.location) with
  | none => return d
  | some r => do
    let parented ← adopt e.value e.location d.parented
    r.take l (d.held c e.heldValues) { d with parented := parented } e.value e.location

/-- Sets the attributes of a closed element on its value. -/
def applyAttributes (l : Loader) (h : Held) (e : Element) : Op LoadError Unit := do
  if e.attributes.isEmpty then return
  else
    let o ← objectOr e.location (.attributesWithoutObject e.name) e.value
    e.attributes.toList.forM fun p => (l.host.setProperty h o p.1 p.2).mapError .property

/-- Takes text inside an element; blank text does not count. -/
def Draft.addText (l : Loader) (c : DocumentContext) (d : Draft) (text : String)
    (at_ : Location) : Op LoadError Draft := do
  if Text.isAllBlank text then return d
  else
    match d.stack with
    | [] => failAt at_ .textOutsideRoot
    | e :: outer =>
      match e.kind with
      | .instanceOf => do
        let o ← objectOr at_ .instanceWithoutObject e.value
        let x ← Op.read (·.object o)
        require at_ (.unacceptedText x.typeName (Text.trim text))
          (x.defaultProperty.isSome || x.sequence?.isSome)
        addChild l (d.held c []) o (.string text) at_
        return d
      | .writable | .attached =>
        return { d with stack := { e with value := .string text, text := some text } :: outer }
      | .script | .listeners =>
        return { d with stack := { e with text := some text } :: outer }
      | kind => failAt at_ (.textInKind kind)

end Bxml
