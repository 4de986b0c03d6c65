import Bxml.Resource.Basic
import Bxml.Resource.FileTree
import Bxml.Text.Utf8

/-!
# Resources in a directory

A provider of the files below a base directory. What lies outside is not served, whether a path
leads there by the names of parent directories or by links: an existing path is compared with the
base after all links are resolved. The tree may change between the creation of a provider and its
use.
-/

namespace Bxml

/-- A provider of the files below a base directory. -/
structure BaseDirectory where
  /-- The absolute path of the directory, as it was given. -/
  path : String
  /-- The link-free names of the directory, if it existed when the provider was created. -/
  canonical : Option (List FileName)

namespace BaseDirectory

/-- A provider of the files below an absolute path. -/
def create (t : FileTree) (path : String) : BaseDirectory :=
  ⟨path, (t.canonical? (Url.utf8 path.toList)).toOption⟩

/-- The names of the base directory. -/
def names (b : BaseDirectory) : List FileName :=
  b.canonical.getD (plainNames (Url.utf8 b.path.toList))

/-- The URL of the base directory. -/
def rootLocation (b : BaseDirectory) : Url := Url.ofDirectory b.names

/-- The URL of a file relative to the base directory. -/
def locationOf (b : BaseDirectory) (relative : String) : Except ResourceError Url :=
  match b.rootLocation.join relative with
  | .ok u => .ok u
  | .error e => .error (.invalidFormat s!"{relative}: {e.message}")

/-- The absolute path of some names. -/
def joinNames (names : List FileName) : List UInt8 :=
  match names with
  | [] => [pathSlash]
  | ns => ns.flatMap (pathSlash :: ·)

/-- The path that may be opened for a URL. A path that does not exist is only compared name by
name. -/
def safePath? (b : BaseDirectory) (t : FileTree) (u : Url) : Option (List UInt8) :=
  if Url.isFile u.scheme then
    match u.filePath? with
    | some path =>
      match t.canonical? path, b.canonical with
      | .ok names, some base => if base.isPrefixOf names then some (joinNames names) else none
      | _, _ =>
        if (plainNames path).contains parentName then none
        else if b.names.isPrefixOf (plainNames path) then some path
        else none
    | none => none
  else none

/-- Reads the file behind a URL. -/
def load (b : BaseDirectory) (t : FileTree) (u : Url) : Except ResourceError (List UInt8) :=
  match b.safePath? t u with
  | none => .error (.notFound s!"{u.text} (outside {b.path})")
  | some path =>
    match t.read path with
    | .ok bytes => .ok bytes
    | .error .notFound => .error (.notFound u.text)
    | .error e => .error (.loadFailed u.text e.message)

/-- The directory as a provider, while the files are those of `t`. -/
def provider (b : BaseDirectory) (t : FileTree) : ResourceProvider where
  name := "FilesystemResourceProvider"
  load := b.load t
  serves u :=
    match b.safePath? t u with
    | some path => t.leadsTo path
    | none => false

end BaseDirectory

end Bxml
