import Bxml.Load.Draft

/-!
# Scripts of a document

A script element runs the script it refers to and then the script it contains. Without an engine or
the text of a script a document cannot be loaded; a script that fails is only reported.
-/

namespace Bxml

/-- The file extension of a source, if the last part of its path has one. -/
def extension? (src : String) : Option String :=
  let name := (src.toList.reverse.takeWhile (· != '/')).reverse
  let tail := (name.reverse.takeWhile (· != '.')).reverse
  if tail.isEmpty || tail.length = name.length then none else some (String.ofList tail)

/-- Evaluates script text, which `origin` names in messages, and reports a failure. Gives whether
there was none. -/
def evaluate (l : Loader) (c : DocumentContext) (h : Held) (engine : EngineId)
    (source origin : String) : Op LoadError Bool := do
  let e := l.host.engine engine
  match ← (e.eval h source c.table).attempt with
  | .ok _ => return true
  | .error x =>
    Op.log .error s!"Script in {origin} failed ({e.language}): {x.message}"
    Op.log .debug source
    return false

/-- Evaluates the text inside an element. Gives whether nothing failed. -/
def evaluateText (l : Loader) (c : DocumentContext) (h : Held) (engine : EngineId) :
    Option String → Op LoadError Bool
  | some source => evaluate l c h engine source c.name
  | none => return true

/-- Runs the script at the given source. -/
def runSource (l : Loader) (c : DocumentContext) (h : Held) (at_ : Location) (src : String) :
    Op LoadError Unit := do
  let extension ← orFail at_ (.unknownScriptType src) (extension? src)
  let engine ← Op.ofExcept (l.engineFor extension)
  let u ← Op.ofExcept (l.sourceUrl c src)
  let source ← Op.ofExcept (l.readText u l.charset)
  let _ ← evaluate l c h engine source u.text

/-- Runs the script inside an element. -/
def runText (l : Loader) (c : DocumentContext) (h : Held) (language source : String) :
    Op LoadError Unit := do
  let engine ← Op.ofExcept (l.engineNamed language)
  let _ ← evaluate l c h engine source c.name

/-- Runs a script element. -/
def runScript (l : Loader) (c : DocumentContext) (h : Held) (language : String) (e : Element) :
    Op LoadError Unit := do
  (e.control.get? srcAttribute).forM (runSource l c h e.location)
  e.text.forM (runText l c h language)

end Bxml
