import Bxml.Bundle.Loader
import Bxml.Encoding.Basic
import Bxml.Load.Error
import Bxml.Resource.Memory
import Bxml.Script.Languages
import Bxml.Types.Factory

/-!
# Loaders

A loader holds everything that loading a document needs from outside. The context of a document says
where it is, which ids it sees and how deep it is included.
-/

namespace Bxml

/-- What is needed to load documents. -/
structure Loader where
  host : Host
  factory : TypeFactory
  languages : Languages
  provider : ResourceProvider
  /-- The bundle of documents that are loaded without a bundle of their own. -/
  bundle : Option Bundle
  bundleLoader : Option BundleLoader
  charset : Encoding
  /-- The base of sources that start with a slash. -/
  rootLocation : Url
  /-- The script language of documents that name none. -/
  language : String
  /-- How deep documents may be included. -/
  maxDepth : Nat

/-- The script language of documents when nobody chooses one. -/
def defaultLanguage : String := "javascript"

/-- The settings of a loader before its charset label is looked up. -/
structure LoaderOptions where
  host : Host
  factory : TypeFactory := .dictionaries host
  languages : Languages := .empty
  provider : ResourceProvider := MemoryStore.empty.provider
  bundle : Option Bundle := none
  bundleLoader : Option BundleLoader := none
  charset : String := Encoding.utf8.name
  rootLocation : Url := .fileRoot
  language : String := defaultLanguage
  maxDepth : Nat := 32

/-- The loader with the given settings. -/
def LoaderOptions.build (o : LoaderOptions) : Except LoadError Loader :=
  match Encoding.ofLabel? o.charset with
  | some e =>
    .ok ⟨o.host, o.factory, o.languages, o.provider, o.bundle, o.bundleLoader, e, o.rootLocation,
      o.language, o.maxDepth⟩
  | none => .error (.charset (.unknown o.charset))

/-- The loader of documents that are only looked at: it makes dictionaries, and there is nothing else
to be read. -/
def Loader.plain : Loader :=
  let host := Host.plain defaultLanguage
  ⟨host, .dictionaries host, .empty, MemoryStore.empty.provider, none, none, .utf8, .fileRoot,
    defaultLanguage, 32⟩

/-- What a document knows of its surroundings. -/
structure DocumentContext where
  location : Option Url
  /-- The ids that the document sees and adds to. -/
  table : TableId
  bundle : Option Bundle
  /-- How many documents include this one, one inside the other. -/
  depth : Nat
  /-- What is held outside of the document. -/
  held : Held

/-- What a document is called in messages. -/
def DocumentContext.name (c : DocumentContext) : String :=
  match c.location with
  | some u => u.text
  | none => "<string>"

namespace Loader

variable (l : Loader)

/-- Reads the text of a resource. -/
def readText (u : Url) (e : Encoding) : Except LoadError String :=
  match l.provider.load u with
  | .error e => .error (.resource e)
  | .ok bytes =>
    match e.decode? bytes with
    | some s => .ok s
    | none => .error (.charset (.malformed u e.name))

/-- The URL of a source: after a slash relative to the root location, otherwise relative to the
document. -/
def sourceUrl (c : DocumentContext) (src : String) : Except LoadError Url :=
  let joined (base : Url) (s : String) : Except LoadError Url :=
    match base.join s with
    | .ok u => .ok u
    | .error e => .error (.url src e)
  match src.toList with
  | '/' :: r => joined l.rootLocation (String.ofList r)
  | _ =>
    match c.location with
    | some base => joined base src
    | none => .error .noBaseLocation

/-- The engine of a script language. -/
def engineNamed (language : String) : Except LoadError EngineId :=
  match l.languages.named? language with
  | some e => .ok e
  | none => .error (.engineNotFound language)

/-- The engine of script files with the given extension. -/
def engineFor (extension : String) : Except LoadError EngineId :=
  match l.languages.forExtension? extension with
  | some e => .ok e
  | none => .error (.engineNotFound ("." ++ extension))

end Loader

end Bxml
