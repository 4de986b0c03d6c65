import Bxml.Load.Draft
import Bxml.Text.Blank

/-!
# Applying bindings

The bindings of a document are applied in their order once it is complete. An expression is a path,
perhaps after the name of a mapping function. A single id is read once, since ids never change; a
longer path leads to a property of an object, which is bound: its value is copied now and whenever
it changes.
-/

namespace Bxml

/-- What divides the mapping function of a binding from its path. -/
def mappingDelimiter : Char := ':'

/-- The mapping function and the path of a binding expression. -/
def splitMapping (expression : String) : Option String × String :=
  let front := expression.toList.takeWhile (· != mappingDelimiter)
  match expression.toList.drop front.length with
  | [] => (none, expression)
  | _ :: path =>
    (some (String.ofList (Text.trimChars front)), String.ofList (Text.trimChars path))

/-- Copies the value of an id to the target of a binding. -/
def bindId (l : Loader) (c : DocumentContext) (h : Held) (p : PendingBinding)
    (mapping : Option Mapping) (segments : List String) : Op LoadError Unit := do
  let v ← (Op.check (·.resolve c.table segments)).mapError .table
  let v ← (l.host.mapped h mapping v).mapError .ofBinding
  (l.host.setProperty h p.target p.targetKey v).mapError .property

/-- What there is, or a failure because a path leads nowhere. -/
def orUndefined {α : Type} (path : String) : Option α → Op LoadError α
  | some a => pure a
  | none => throw (.table (.undefined path))

/-- The object whose property is the source of a binding: `objectPath` leads to the object, and
`path` on to the property `key`. -/
def bindingSource (c : DocumentContext) (objectPath : List String) (key path : String) :
    Op LoadError ObjectId := do
  let v ← (Op.check (·.resolve c.table objectPath)).mapError .table
  let o ← orUndefined (joinPath objectPath) v.object?
  let readable ← Op.read fun w => (w.object o).hasProperty key
  orUndefined path (if readable then some o else none)

/-- Makes a connection: copies the value along it now and, if the source tells of its changes,
whenever it changes. -/
def connect (l : Loader) (h : Held) (b : Bxml.Binding) (path : String) : Op LoadError Unit := do
  (l.host.copyAlong l.host.setProperty h b).mapError .ofBinding
  let source ← Op.typeName b.source
  if ← Op.read fun w => (w.object b.source).publishes then
    Op.log .debug s!"Bound {source}.{b.sourceKey} to {← Op.typeName b.target}.{b.targetKey}"
    Op.change (·.subscribe b.source b.sourceKey (.binding b))
  else
    Op.log .warn s!"{source} does not publish changes; binding to '{path}' was applied once"

/-- Binds a property of an object to the target of a binding. -/
def bindProperty (l : Loader) (c : DocumentContext) (h : Held) (p : PendingBinding)
    (mapping : Option Mapping) (objectPath : List String) (key path : String) :
    Op LoadError Unit := do
  let o ← bindingSource c objectPath key path
  connect l (h.keep [.object o]) ⟨o, key, p.target, p.targetKey, mapping⟩ path

/-- The mapping function of the given name, with the engine of a language that has it. -/
def mappingNamed (l : Loader) (language : String) : Option String → Op LoadError (Option Mapping)
  | some f => do
    let engine ← Op.ofExcept (l.engineNamed language)
    return some ⟨engine, f⟩
  | none => return none

/-- Applies one binding of a document in the given language. -/
def bind (l : Loader) (c : DocumentContext) (h : Held) (language : String) (p : PendingBinding) :
    Op LoadError Unit := do
  let (function, path) := splitMapping p.expression
  require p.location (.invalidBinding p.expression) !path.isEmpty
  let mapping ← mappingNamed l language function
  let segments := pathSegments path
  let h := h.keep [.object p.target]
  match segments.getLast? with
  | none => return
  | some key =>
    if segments.length = 1 then bindId l c h p mapping segments
    else bindProperty l c h p mapping segments.dropLast key path

/-- Applies some bindings in order. The targets of those to come are held. -/
def applyBindings (l : Loader) (c : DocumentContext) (h : Held) (language : String) :
    List PendingBinding → Op LoadError Unit
  | [] => return
  | p :: r => do
    bind l c (h.keep (r.map fun q => .object q.target)) language p
    applyBindings l c h language r

end Bxml
