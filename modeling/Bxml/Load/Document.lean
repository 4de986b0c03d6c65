import Bxml.Load.Binding
import Bxml.Load.Closing

/-!
# Loading documents

The events of a document build its objects. Once it is complete its bindings are applied and then
its root is initialized. Whatever stops the reading of a document is reported before the load ends
with it.
-/

namespace Bxml

/-- The words of the instruction that names the script language of a document. -/
def languageInstruction : String := "language"

/-- Takes an instruction. -/
def Draft.addInstruction (d : Draft) (target data : String) (at_ : Location) :
    Op LoadError Draft := do
  if target ≠ languageInstruction then
    Op.log .debug s!"Ignoring processing instruction <?{target}?>"
    return d
  if d.language.isSome then failAt at_ .languageSet
  return { d with language := some data }

/-- Takes an event of a document. -/
def Draft.step (l : Loader) (c : DocumentContext) (nested : Option NestedLoad) (d : Draft)
    (x : Xml.Located) : Op LoadError Draft :=
  match x.event with
  | .instruction target data => d.addInstruction target data x.location
  | .start tag => d.openElement l c nested tag x.location
  | .close => d.closeElement l c x.location
  | .characters text => d.addText l c text x.location

/-- Reports what stopped the reading of a document at the given location. -/
def reportFailure (c : DocumentContext) (at_ : Location) (e : LoadError) (w : World) : World :=
  (w.log .error s!"An error occurred at line number {at_.line} in {c.name}:").log .error e.message

/-- Takes some events of a document in their order. -/
def takeEvents (l : Loader) (c : DocumentContext) (nested : Option NestedLoad) (d : Draft)
    (items : List Xml.Located) : Op LoadError Draft :=
  items.foldlM (fun d x => (d.step l c nested x).onError (reportFailure c x.seen)) d

/-- Fails with the fault that ended the reading of a document, if there was one. -/
def reportFault (c : DocumentContext) (es : Xml.Events) : Op LoadError Unit :=
  match es.fault with
  | some f => Op.onError (throw (.xml f es.stop)) (reportFailure c es.stop)
  | none => return

/-- The value of the root of a complete document. -/
def Draft.finish (d : Draft) : Op LoadError Value :=
  match d.stack with
  | e :: _ => failAt e.location (.unexpectedEnd e.name)
  | [] =>
    match d.root with
    | some v => return v
    | none => failAt .none .noRoot

/-- Runs what is to be run on the root of a complete document. -/
def completeRoot (l : Loader) (c : DocumentContext) (h : Held) (root : Value) :
    Op LoadError Unit := do
  let some o := root.object? | return
  let some hook ← Op.read fun w => (w.object o).dictionary?.bind (·.hook) | return
  (l.host.hook hook h o c.table c.location).mapError .property

/-- Ends the load of a document all events of which are taken. -/
def Draft.complete (l : Loader) (c : DocumentContext) (es : Xml.Events) (d : Draft) :
    Op LoadError (Outcome × List ObjectId) := do
  reportFault c es
  let root ← d.finish
  let h := (c.held.keep (root :: d.parented.map .object)).keepTable c.table
  (applyBindings l c h (d.languageIn l) d.bindings).onError fun e w =>
    w.log .error s!"Failed to bind {c.name}: {e.message}"
  completeRoot l c h root
  let size ← Op.read fun w => (w.table c.table).size
  Op.log .debug s!"Loaded {c.name}: {size} id(s) in scope"
  return (⟨root, c.table, c.location⟩, d.parented)

/-- Records that the load of a document begins. -/
def DocumentContext.announce (c : DocumentContext) (w : World) : World :=
  w.log .debug s!"Loading {c.name} (depth {c.depth})"

/-- Loads a document; the documents it includes are loaded by means of `nested`. -/
def loadWith (l : Loader) (nested : Option NestedLoad) : NestedLoad := fun c parented source => do
  Op.change c.announce
  let es := Xml.events source
  let d ← takeEvents l c nested (.start parented) es.items
  d.complete l c es

/-- Loads a document inside which documents may be included `n` deep. -/
def loadNested (l : Loader) : Nat → NestedLoad
  | 0 => loadWith l none
  | n + 1 => loadWith l (some (loadNested l n))

namespace Loader

variable (l : Loader)

/-- The context of a document that no other one includes. Without a table it gets ids of its own;
without a bundle, that of the loader. -/
def outerContext (h : Held) (table : Option TableId) (bundle : Option Bundle)
    (location : Option Url) : Op LoadError DocumentContext := do
  let t ←
    match table with
    | some t => pure t
    | none => Op.make (·.allocTable .empty)
  let bundle := bundle <|> l.bundle
  return ⟨location, t, bundle, 0, h.keep ((bundle.map Bundle.heldValues).getD [])⟩

/-- Loads the text of a document that no other one includes. -/
def loadOuter (c : DocumentContext) (source : String) : Op LoadError Outcome := do
  return (← loadNested l l.maxDepth c [] source).1

/-- Loads the text of a document. The location is what URLs in it are relative to. -/
def loadText (h : Held) (source : String) (table : Option TableId) (location : Option Url) :
    Op LoadError Outcome := do
  let c ← l.outerContext h table none location
  l.loadOuter c source

/-- Reads and loads the document at a URL. -/
def loadUrl (h : Held) (u : Url) (table : Option TableId) (bundle : Option Bundle) :
    Op LoadError Outcome := do
  let c ← l.outerContext h table bundle (some u)
  let source ← Op.ofExcept (l.readText u l.charset)
  l.loadOuter c source

end Loader

end Bxml
