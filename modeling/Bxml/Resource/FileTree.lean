import Bxml.Url.FilePath

/-!
# File trees

Files, directories and symbolic links below one root. A path is walked name by name; a link is
replaced by the path it holds, and a walk over more links than the limit fails. `canonical?` gives
the path without links that a path leads to.
-/

namespace Bxml

/-- Why the system refuses a path. -/
inductive SystemError
  | notFound
  | notDirectory
  | isDirectory
  | nameTooLong
  | tooManyLinks
  | nulByte
deriving DecidableEq, Repr

/-- The wording of a system error. -/
def SystemError.message : SystemError → String
  | .notFound => "No such file or directory (os error 2)"
  | .notDirectory => "Not a directory (os error 20)"
  | .isDirectory => "Is a directory (os error 21)"
  | .nameTooLong => "File name too long (os error 36)"
  | .tooManyLinks => "Too many levels of symbolic links (os error 40)"
  | .nulByte => "file name contained an unexpected NUL byte"

/-- A tree of files. -/
inductive FileTree
  | file (bytes : List UInt8)
  | link (target : List UInt8)
  | directory (entries : List (FileName × FileTree))

namespace FileTree

/-- What stands below a tree at the end of a chain of names. -/
def find? : FileTree → List FileName → Option FileTree
  | t, [] => some t
  | .directory es, n :: r =>
    match es.lookup n with
    | some t => find? t r
    | none => none
  | _, _ :: _ => none

/-- How many links one walk may follow. -/
def linkLimit : Nat := 40

/-- How long a name may be. -/
def nameLimit : Nat := 255

/-- How long a path may be. -/
def pathLimit : Nat := 4095

/-- Goes on from the directory or file at `here`, which is free of links, over some names, following
at most so many links. Gives the link-free names of what is reached. -/
def walk (t : FileTree) : Nat → List FileName → List FileName → Except SystemError (List FileName)
  | _, here, [] => .ok here
  | links, here, n :: r =>
    match t.find? here with
    | some (.directory es) =>
      if n = [] ∨ n = selfName then walk t links here r
      else if n = parentName then walk t links here.dropLast r
      else if nameLimit < n.length then .error .nameTooLong
      else
        match es.lookup n with
        | none => .error .notFound
        | some (.link target) =>
          match links with
          | 0 => .error .tooManyLinks
          | links + 1 =>
            walk t links (if target.head? = some pathSlash then [] else here)
              (pathNames target ++ r)
        | some _ => walk t links (here ++ [n]) r
    | some (.file _) => .error .notDirectory
    | _ => .error .notFound
termination_by links _ names => (links, names.length)

/-- The link-free names of what a path leads to. -/
def canonical? (t : FileTree) (path : List UInt8) : Except SystemError (List FileName) :=
  if path.contains 0 then .error .nulByte
  else if pathLimit < path.length then .error .nameTooLong
  else t.walk linkLimit [] (pathNames path)

/-- The bytes of the file that a path leads to. -/
def read (t : FileTree) (path : List UInt8) : Except SystemError (List UInt8) := do
  match t.find? (← t.canonical? path) with
  | some (.file bytes) => return bytes
  | some (.directory _) => throw .isDirectory
  | _ => throw .notFound

/-- Whether a path leads anywhere. -/
def leadsTo (t : FileTree) (path : List UInt8) : Bool :=
  match t.canonical? path with
  | .ok _ => true
  | .error _ => false

/-- An empty directory. -/
def empty : FileTree := .directory []

/-- The entries of a directory with one of them changed, or added at the end. -/
def setEntry (n : FileName) (t : FileTree) : List (FileName × FileTree) → List (FileName × FileTree)
  | [] => [(n, t)]
  | p :: r => if p.1 = n then (n, t) :: r else p :: setEntry n t r

/-- The tree with `new` put at the end of a chain of names. Directories on the way are made;
anything else on the way is replaced. -/
def insert (new : FileTree) : List FileName → FileTree → FileTree
  | [], _ => new
  | n :: r, .directory es => .directory (setEntry n (insert new r ((es.lookup n).getD empty)) es)
  | n :: r, _ => .directory [(n, insert new r empty)]

end FileTree

end Bxml
