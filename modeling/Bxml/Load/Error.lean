import Bxml.Load.Fault
import Bxml.Resource.Basic
import Bxml.Types.Factory
import Bxml.Xml.Fault

/-!
# Why a load fails

A load ends with one error. An error in an included document is wrapped in the location of that
document; `LoadError.rootCause` looks through the wrappers.
-/

namespace Bxml

/-- Why a text cannot be had in an encoding. -/
inductive CharsetFault
  /-- There is no encoding with this label. -/
  | unknown (label : String)
  /-- The document at the location is no text in the encoding. -/
  | malformed (location : Url) (encoding : String)
deriving DecidableEq, Repr

/-- The words that name a charset fault. -/
def CharsetFault.text : CharsetFault → String
  | .unknown label => label
  | .malformed location encoding => s!"{location.text} is not valid {encoding}"

/-- The error of a load. -/
inductive LoadError
  | xml (fault : Xml.Fault) (location : Location)
  | structural (fault : StructureFault) (location : Location)
  | type (e : FactoryError)
  | property (e : PropertyError)
  | table (e : TableError)
  | resource (e : ResourceError)
  | script (e : ScriptError)
  | engineNotFound (name : String)
  | url (text : String) (e : Url.ParseError)
  | noBaseLocation
  | charset (f : CharsetFault)
  | included (location : Url) (source : LoadError)
deriving Repr

namespace LoadError

/-- The wording of a load error. -/
def message : LoadError → String
  | .xml f at_ => s!"XML parsing error at {at_.text}: {f.message}"
  | .structural f at_ => s!"{f.message} ({at_.text})"
  | .type e => s!"Type error: {e.message}"
  | .property e => e.message
  | .table e => e.message
  | .resource e => s!"Resource error: {e.message}"
  | .script e => e.report
  | .engineNotFound name => s!"Script engine for \"{name}\" not found"
  | .url text e => s!"Invalid URL '{text}': {e.message}"
  | .noBaseLocation => "Base location is undefined"
  | .charset f => s!"Unsupported or malformed character set '{f.text}'"
  | .included location source => s!"Error in included document {location.text}: {source.message}"

/-- The error inside all wrappers. -/
def rootCause : LoadError → LoadError
  | .included _ source => source.rootCause
  | e => e

/-- The locations of the wrappers, outermost first. -/
def wrappers : LoadError → List Url
  | .included location source => location :: source.wrappers
  | _ => []

/-- A binding error as the error of a load. -/
def ofBinding : BindingError → LoadError
  | .property e => .property e
  | .script e => .script e

end LoadError

end Bxml
