import Bxml.Load.Attribute
import Bxml.Load.Draft

/-!
# Included documents

An include element stands for the root of another document. Unless it is inline, that document has
ids of its own. It falls back on the bundle of the including document, and shares the record of
which objects have a parent. An error inside it is wrapped in its location.
-/

namespace Bxml

/-- The source of an include. A reference sentinel takes it from the table of ids; a doubled one
stands for itself. -/
def includeSource (c : DocumentContext) (src : String) : Op LoadError String :=
  match src.toList with
  | s :: p :: r =>
    if s = AttributeForm.referenceSentinel then
      if p = AttributeForm.referenceSentinel then return String.ofList (p :: r)
      else do
        let v ← (Op.check (·.resolvePath c.table (String.ofList (p :: r)))).mapError .table
        Op.read (·.text v)
    else return src
  | _ => return src

/-- The bundle of an included document. -/
def includeBundle (l : Loader) (c : DocumentContext) (e : Element) : Op LoadError (Option Bundle) :=
  match e.control.get? resourcesAttribute with
  | none => return c.bundle
  | some name =>
    match l.bundleLoader with
    | none => failAt e.location (.noBundleLoader name)
    | some b => do
      return some (← (b.load name c.bundle).mapError .resource)

/-- The encoding of an included document. -/
def includeCharset (l : Loader) (e : Element) : Op LoadError Encoding :=
  match e.control.get? charsetAttribute with
  | none => return l.charset
  | some label =>
    match Encoding.ofLabel? (Text.trim label) with
    | some x => return x
    | none => throw (.charset (.unknown label))

/-- Whether an included document shares the ids of the including one. -/
def isInline (e : Element) : Bool :=
  match e.control.get? inlineAttribute with
  | some v => Text.asciiLower (Text.trim v) == "true"
  | none => false

/-- The table of an included document. -/
def includeTable (c : DocumentContext) (e : Element) : Op LoadError TableId :=
  if isInline e then pure c.table else Op.make (·.allocTable .empty)

/-- A document that is to be included: where and how it is read, and what it will know of its
surroundings. -/
structure Inclusion where
  url : Url
  charset : Encoding
  context : DocumentContext

/-- The document that an include element asks for, along with what is there for loading it; at the
greatest depth there is nothing. -/
def prepareInclusion {α : Type} (l : Loader) (c : DocumentContext) (nested : Option α) (d : Draft)
    (e : Element) : Op LoadError (α × Inclusion) := do
  let src ← orFail e.location (.missingAttribute srcAttribute includeTag)
    (e.control.get? srcAttribute)
  let src ← includeSource c src
  let nested ← orFail e.location (.tooDeep src l.maxDepth) nested
  let bundle ← includeBundle l c e
  let charset ← includeCharset l e
  let table ← includeTable c e
  let u ← Op.ofExcept (l.sourceUrl c src)
  let manner := if isInline e then "inline" else "isolated"
  Op.log .debug s!"Including {u.text} ({manner})"
  let inner : DocumentContext := ⟨some u, table, bundle, c.depth + 1, d.held c e.heldValues⟩
  return (nested, ⟨u, charset, inner⟩)

/-- Reads an included document and loads it by means of `nested`. Gives its root. -/
def Inclusion.load (i : Inclusion) (l : Loader) (nested : NestedLoad) (parented : List ObjectId) :
    Op LoadError (Value × List ObjectId) :=
  Op.mapError (.included i.url) do
    let source ← Op.ofExcept (l.readText i.url i.charset)
    let (outcome, parented) ← nested i.context parented source
    return (outcome.root, parented)

end Bxml
