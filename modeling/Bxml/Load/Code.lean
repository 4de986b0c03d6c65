import Bxml.Load.Error

/-!
# Codes of errors

A code names the kind of an error for programs, which should not depend on its wording. The code of
an error that wraps another one ends with the code inside.

The command line prints messages only.  Codes, and the places of errors (`LoadError.location?`), are
for programs that use the library; nothing in it depends on them.
-/

namespace Bxml

def PropertyError.code : PropertyError → String
  | .noSuchProperty _ _ => "Property.NoSuchProperty"
  | .readOnly _ _ => "Property.ReadOnly"
  | .coercion _ _ _ => "Property.Coercion"
  | .custom _ => "Property.Custom"

def TableError.code : TableError → String
  | .duplicateId _ => "Namespace.DuplicateId"
  | .undefined _ => "Namespace.Undefined"
  | .property e => e.code

def FactoryError.code : FactoryError → String
  | .unknownType _ => "Type.UnknownType"
  | .construction _ _ => "Type.Construction"
  | .unknownAttached _ _ => "Type.UnknownAttachedProperty"
  | .property e => "Type/" ++ e.code

def ResourceError.code : ResourceError → String
  | .notFound _ => "Resource.NotFound"
  | .loadFailed _ _ => "Resource.LoadFailed"
  | .invalidFormat _ => "Resource.InvalidFormat"

def ScriptError.code : ScriptError → String
  | .failed _ => "Script.Eval"
  | .noSuchFunction _ => "Script.NoSuchFunction"
  | .unsupported _ => "Script.Unsupported"

namespace LoadError

def code : LoadError → String
  | .xml _ _ => "Xml"
  | .structural _ _ => "Structure"
  | .type e => e.code
  | .property e => e.code
  | .table e => e.code
  | .resource e => e.code
  | .script e => e.code
  | .engineNotFound _ => "EngineNotFound"
  | .url _ _ => "Url"
  | .noBaseLocation => "NoBaseLocation"
  | .charset _ => "Charset"
  | .included _ e => "Include/" ++ e.code

/-- Where in the markup the error inside all wrappers was found. -/
def location? : LoadError → Option Location
  | .xml _ at_ => some at_
  | .structural _ at_ => some at_
  | .included _ e => e.location?
  | _ => none

end LoadError

end Bxml
