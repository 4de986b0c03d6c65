import Bxml.Load.Composition
import Bxml.Load.Installing

/-!
# Ends of elements

When an element ends, its attributes are set on its value, the value is handed to its parent, and
what is attached to it is applied, in this order; the id is registered last.
-/

namespace Bxml

/-- Registers the id of a closed element, and sets it on the object if its type has a property for
it. -/
def registerId (l : Loader) (c : DocumentContext) (h : Held) (e : Element) : Op LoadError Unit := do
  let some id := e.id | return
  (Op.update (·.putId c.table id e.value)).mapError .table
  let some o := e.value.object? | return
  let some property ← Op.read fun w => (w.object o).idProperty | return
  (l.host.setProperty h o property (.string id)).mapError .property

/-- What the end of an element does, apart from its id. -/
def closeAs (l : Loader) (c : DocumentContext) (d : Draft) (e : Element) :
    Op LoadError Draft := do
  let h := d.held c e.heldValues
  let language := d.languageIn l
  match e.kind with
  | .instanceOf | .inclusion | .reference => do
    applyAttributes l h e
    let d ← compose l c d e
    applyAttachedAttributes l c (d.held c e.heldValues) language e
    return d
  | .readOnly => do
    applyAttributes l h e
    return d
  | .writable => do
    let o ← orFail e.location (.propertyWithoutObject e.name) (owner? d.stack)
    (l.host.setProperty h o e.name e.value).mapError .property
    return d
  | .attached => do
    applyAttachedElement l h d.stack e
    return d
  | .listeners => do
    installAdapter l c h language d.stack e
    return d
  | .script => do
    runScript l c h language e
    return d
  | .definition => return d

/-- Ends the innermost element. The value of the outermost one is the root. -/
def Draft.closeElement (l : Loader) (c : DocumentContext) (d : Draft) (at_ : Location) :
    Op LoadError Draft := do
  match d.stack with
  | [] => failAt at_ .unbalancedEnd
  | e :: outer =>
    let d ← closeAs l c { d with stack := outer } e
    registerId l c (d.held c e.heldValues) e
    return if d.stack.isEmpty then { d with root := some e.value } else d

end Bxml
