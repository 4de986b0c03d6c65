import Bxml.Inspect.Listener
import Bxml.Load.Opening
import Bxml.Load.ScriptText
import Bxml.Text.Case

/-!
# Attached members and listeners

A name such as `Owner.member` on an element means an event, if the object has listeners of the
interface `Owner`, and the attribute is its script; otherwise it is a property that the type `Owner`
attaches. A listener element installs an adapter that calls functions of a script engine.
-/

namespace Bxml

/-- The property of an object that holds the listeners of an interface. -/
def listenersProperty (interface : String) : String :=
  match interface.toList with
  | c :: r => String.ofList (Text.toLowercase c ++ r ++ ['s'])
  | [] => ""

/-- Installs the script of one event. -/
def installEventScript (l : Loader) (c : DocumentContext) (language : String) (o : ObjectId)
    (property : String) (list : ListenerList) (a : AttachedAttribute) (at_ : Location) :
    Op LoadError Unit := do
  require at_ (.unknownMethod a.member list.interface.name) (list.interface.find? a.member).isSome
  let engine ← Op.ofExcept (l.engineNamed language)
  let script : EventScript := ⟨list.interface, engine, a.member, a.value, some c.table⟩
  Op.log .debug s!"Installed {script.inspect (l.host.engine engine).language}"
  Op.change (·.addListener o property (.script script))

/-- Applies an attribute such as `Owner.member` to an object. -/
def applyAttachedAttribute (l : Loader) (c : DocumentContext) (h : Held) (language : String)
    (o : ObjectId) (at_ : Location) (a : AttachedAttribute) : Op LoadError Unit := do
  let property := listenersProperty a.owner
  match ← Op.read fun w => (w.object o).listeners? property with
  | some list => installEventScript l c language o property list a at_
  | none =>
    match ← c.resolveAttribute a.value at_ with
    | .binding _ => failAt at_ (.boundAttached a.owner a.member)
    | .resolved v =>
      (l.factory.attach (h.keep [v]) a.ownerType a.member o v).mapError .type
      Op.log .trace s!"Attached {a.ownerType}.{a.member} to {← Op.typeName o}"

/-- Applies the attached attributes of a closed element to its value. -/
def applyAttachedAttributes (l : Loader) (c : DocumentContext) (h : Held) (language : String)
    (e : Element) : Op LoadError Unit := do
  if e.attached.isEmpty then return
  else
    let o ← objectOr e.location (.attachedWithoutObject e.name) e.value
    e.attached.forM (applyAttachedAttribute l c h language o e.location)

/-- The object of the innermost open element. -/
def owner? (stack : List Element) : Option ObjectId := stack.head?.bind fun e => e.value.object?

/-- Sets the value of a closed attached element on the object around it. The type and the property
are told apart in its name. -/
def applyAttachedElement (l : Loader) (h : Held) (stack : List Element) (e : Element) :
    Op LoadError Unit := do
  let o ← orFail e.location (.attachedWithoutOwner e.name) (owner? stack)
  let (owner, property) ← orFail e.location (.invalidAttached e.name) (splitQualified? e.name)
  (l.factory.attach h owner property o e.value).mapError .type

/-- Installs the adapter of a closed listener element, unless its script fails. -/
def installAdapter (l : Loader) (c : DocumentContext) (h : Held) (language : String)
    (stack : List Element) (e : Element) : Op LoadError Unit := do
  let parent ← orFail e.location .listenersWithoutParent stack.head?
  let o ← objectOr e.location .listenersWithoutObject parent.value
  let x ← Op.read (·.object o)
  let list ← orFail e.location (.noListenerList e.name x.typeName) (x.listeners? e.name)
  e.attributes.keys.forM fun m =>
    require e.location (.unknownMethod m list.interface.name) (list.interface.find? m).isSome
  let engine ← Op.ofExcept (l.engineNamed language)
  if ← evaluateText l c h engine e.text then
    let functions ← Op.read fun w => e.attributes.map w.text
    let a : Adapter := ⟨list.interface, engine, functions, e.text.isSome⟩
    Op.log .debug
      s!"Installed {a.inspect (l.host.engine engine).language} on {← Op.typeName o}"
    Op.change (·.addListener o e.name (.adapter a))

end Bxml
