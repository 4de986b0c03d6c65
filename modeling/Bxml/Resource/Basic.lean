import Bxml.Url.Parser

/-!
# Resources

Documents, scripts and bundles are bytes behind URLs. A provider decides which URLs it serves.
-/

namespace Bxml

/-- Why a resource cannot be had. -/
inductive ResourceError
  | notFound (text : String)
  | loadFailed (location text : String)
  | invalidFormat (text : String)
deriving DecidableEq, Repr

/-- The wording of a resource error. -/
def ResourceError.message : ResourceError → String
  | .notFound text => s!"Resource not found: {text}"
  | .loadFailed location text => s!"Failed to load resource '{location}': {text}"
  | .invalidFormat text => s!"Invalid resource format: {text}"

/-- A provider of resources. -/
structure ResourceProvider where
  /-- What the provider is called. -/
  name : String
  load : Url → Except ResourceError (List UInt8)
  /-- Whether there is something behind a URL. -/
  serves : Url → Bool

end Bxml
