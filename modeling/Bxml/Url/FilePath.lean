import Bxml.Url.Percent
import Bxml.Url.Parser

/-!
# File URLs and paths

A file URL stands for the path that its own path decodes to. A directory has a URL that ends in a
slash, so that names relative to it are inside.
-/

namespace Bxml

/-- The name of a file, in bytes. -/
abbrev FileName := List UInt8

/-- The byte that divides the names of a path. -/
def pathSlash : UInt8 := 47

/-- The names that a path consists of. Two slashes in a row have an empty name between them. -/
def pathNames : List UInt8 → List FileName
  | [] => [[]]
  | b :: r =>
    if b = pathSlash then [] :: pathNames r
    else
      match pathNames r with
      | n :: ns => (b :: n) :: ns
      | [] => [[b]]

/-- The name of the directory itself. -/
def selfName : FileName := [46]

/-- The name of the directory above. -/
def parentName : FileName := [46, 46]

/-- The names of a path without those that lead nowhere. -/
def plainNames (path : List UInt8) : List FileName :=
  (pathNames path).filter fun n => n != [] && n != selfName

namespace Url

/-- Whether a path ends in a drive letter and its colon. -/
def endsInDrive (path : List UInt8) : Bool :=
  match path.reverse with
  | c :: l :: _ :: _ =>
    (c == 58 || c == 124) && ((65 ≤ l && l ≤ 90) || (97 ≤ l && l ≤ 122))
  | _ => false

/-- The path of the file that a URL stands for, unless the file is on another host. A drive letter
at the end is a directory. -/
def filePath? (u : Url) : Option (List UInt8) :=
  let host := (u.authority.map Authority.host).getD []
  if u.path.head? == some '/' && (host == [] || host == "localhost".toList) then
    let path := percentDecode u.path
    some (if endsInDrive path then path ++ [pathSlash] else path)
  else none

/-- A file name as a segment of a path. -/
def nameSegment (n : FileName) : List Char :=
  n.flatMap fun b =>
    let c := Char.ofNat b.toNat
    if segmentSet c then percentByte b else [c]

/-- The URL of the directory with the given names below the root. -/
def ofDirectory (names : List FileName) : Url :=
  { fileRoot with path := '/' :: names.flatMap fun n => nameSegment n ++ ['/'] }

end Url

end Bxml
