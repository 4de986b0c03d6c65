import Bxml.CommandLine.Arguments
import Bxml.Dump
import Bxml.Load.Document
import Bxml.Resource.Directory

/-!
# Running a command

A command loads one document and prints what the load left as JSON. Every element becomes a
dictionary, so that any document can be looked at. Scripts are reported but do not run. Documents,
scripts and bundles are read below the directory of the document.
-/

namespace Bxml.CommandLine

/-- What a command leaves. -/
structure Report where
  exit : Nat
  output : String
  errors : String
deriving Repr

/-- Where a command runs. -/
structure Surroundings where
  files : FileTree
  /-- The absolute path of the working directory. -/
  directory : String
  setting? : String → Option String

/-- The name and the version of the program. -/
def versionText : String := "trellis 0.1.0"

/-- How the program is called. -/
def usage : String :=
  "Usage: trellis [--resources FILE] [--locale LOCALE] [--charset LABEL] [--log LEVEL] " ++
    "[--compact] DOCUMENT"

/-- Why a command fails. -/
inductive Failure
  | load (e : LoadError)
  | resource (e : ResourceError)
  | unreadable (path : String) (e : SystemError)
deriving Repr

/-- The wording of a failure. -/
def Failure.message : Failure → String
  | .load e => e.message
  | .resource e => e.message
  | .unreadable path e => s!"Cannot read {path}: {e.message}"

/-- A path relative to the working directory as an absolute one. -/
def Surroundings.absolute (s : Surroundings) (path : String) : List UInt8 :=
  if path.toList.head? = some '/' then Url.utf8 path.toList
  else Url.utf8 s.directory.toList ++ pathSlash :: Url.utf8 path.toList

/-- A path or a file name as text. -/
def nameText (bytes : List UInt8) : String :=
  String.ofList ((Text.utf8? bytes).getD (bytes.map fun b => Char.ofNat b.toNat))

/-- The bundle that a command line names. -/
def readBundle (s : Surroundings) (path : String) : Except Failure Bundle :=
  match s.files.read (s.absolute path) with
  | .error e => .error (.unreadable path e)
  | .ok bytes => (Bundle.ofBytes bytes).mapError .resource

/-- The locale of a command. -/
def localeOf (s : Surroundings) (a : Arguments) : Option Locale :=
  match a.value? .locale with
  | some tag => Locale.parse? tag
  | none => Locale.ofEnvironment? s.setting?

/-- The loader of a command and the URL of its document. -/
def prepare (s : Surroundings) (document : String) (a : Arguments) :
    Except Failure (Loader × Url) := do
  let names ← (s.files.canonical? (s.absolute document)).mapError (.unreadable document)
  let base := BaseDirectory.create s.files (nameText (BaseDirectory.joinNames names.dropLast))
  let u ← (base.locationOf (nameText (names.getLast?.getD []))).mapError .resource
  let provider := base.provider s.files
  let bundle ← (a.value? .resources).mapM (readBundle s)
  let options : LoaderOptions :=
    { host := .plain defaultLanguage
      languages := Languages.empty.register ⟨0⟩ defaultLanguage ["js"] ["js"]
      provider := provider
      bundle := bundle
      bundleLoader := some ⟨provider, base.rootLocation, localeOf s a⟩
      charset := (a.value? .charset).getD Encoding.utf8.name
      rootLocation := base.rootLocation }
  let l ← options.build.mapError .load
  return (l, u)

/-- The levels that `--log` may ask for. -/
def levels : List Level := [.error, .warn, .info, .debug, .trace]

/-- The log records that a command line asks for, a line each. -/
def logLines (a : Arguments) (w : World) : String :=
  match (a.value? .log).bind fun s => levels.find? fun x => x.text == Text.asciiLower s with
  | none => ""
  | some least =>
    String.join (w.trace.toList.map fun e =>
      match e with
      | .log x text => if x.rank ≤ least.rank then s!"[{Text.asciiUpper x.text}] {text}\n" else ""
      | _ => "")

/-- Loads the document of a command line. -/
def load (s : Surroundings) (document : String) (a : Arguments) : Report :=
  match prepare s document a with
  | .error f => ⟨1, "", s!"error: {f.message}\n"⟩
  | .ok (l, u) =>
    match (l.loadUrl .nothing u none none).runIn .empty with
    | (.error e, w) => ⟨1, "", logLines a w ++ s!"error: {(Failure.load e).message}\n"⟩
    | (.ok x, w) =>
      let j := w.outcomeJson x
      let w := w.log .info s!"Loaded {u.text} with {(w.table x.table).size} id(s)"
      ⟨0, (if a.compact then j.compact else j.pretty) ++ "\n", logLines a w⟩

/-- Runs a command. -/
def run (s : Surroundings) (args : List String) : Report :=
  match Request.ofArguments args with
  | .help => ⟨0, usage ++ "\n", ""⟩
  | .version => ⟨0, versionText ++ "\n", ""⟩
  | .invalid => ⟨2, "", usage ++ "\n"⟩
  | .load document a => load s document a

end Bxml.CommandLine
