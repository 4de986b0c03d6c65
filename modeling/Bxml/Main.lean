import Bxml.CommandLine.Run

/-!
# The program

The program pictures the files that a command line leads to, runs the command on the picture and
prints its report. The picture holds everything below the directory of the document, where the
symbolic links in there lead, and the file of the bundle.
-/

namespace Bxml.CommandLine.Picture

/-- A picture in the making. -/
abbrev Drawing := StateT FileTree IO

/-- The path without links that a path leads to, if it leads anywhere. -/
def real? (path : String) : IO (Option String) := do
  match ← (IO.FS.realPath path).toBaseIO with
  | .ok p => return some p.toString
  | .error _ => return none

/-- Puts something at a path where nothing is yet. -/
def add (path : String) (new : FileTree) : Drawing Unit :=
  let names := plainNames (Url.utf8 path.toList)
  modify fun t => if (t.find? names).isSome then t else .insert new names t

/-- Adds the file or the directory at a path without links; of a directory only the name. -/
def addTarget (path : String) : Drawing Unit := do
  if ← (← IO.FS.realPath path).isDir then add path .empty
  else
    match ← (IO.FS.readBinFile path).toBaseIO with
    | .ok bytes => add path (.file bytes.toList)
    | .error _ => pure ()

/-- Adds what stands at a path whose directory has no links in its path, and gives the path that it
leads to. -/
def addNode (path : String) : Drawing (Option String) := do
  let some target ← real? path | return none
  addTarget target
  if target != path then add path (.link (Url.utf8 target.toList))
  return some target

/-- The path of the directory that holds what stands at a path. The root is the empty path. -/
def parent (path : String) : String := "/".intercalate (path.splitOn "/").dropLast

/-- Adds what is met on the way over some names from a directory without links, and gives where the
way ends. -/
def addWay (here : String) : List String → Drawing String
  | [] => return here
  | n :: r => do
    if n == "" || n == "." then addWay here r
    else if n == ".." then addWay (parent here) r
    else
      let some target ← addNode (here ++ "/" ++ n) | return here
      addWay (if target == "/" then "" else target) r

/-- Adds everything below a directory. -/
partial def addBelow (directory : String) : Drawing Unit := do
  let .ok entries ← (do (← IO.FS.realPath (directory ++ "/")).readDir : IO _).toBaseIO | return
  for e in entries do
    let path := directory ++ "/" ++ e.fileName
    let target ← addNode path
    if target == some path then addBelow path

/-- Pictures where a path leads to from a directory without links. -/
def addPath (directory path : String) : Drawing String := do
  addTarget directory
  addWay (if path.startsWith "/" then "" else directory) (path.splitOn "/")

end Bxml.CommandLine.Picture

open Bxml.CommandLine in
/-- Runs the command of a command line. -/
def main (args : List String) : IO UInt32 := do
  let directory := (← IO.currentDir).toString
  let draw : Picture.Drawing Unit := do
    let .load document a := Request.ofArguments args | return
    Picture.addBelow (Picture.parent (← Picture.addPath directory document))
    for path in a.value? .resources do
      let _ ← Picture.addPath directory path
  let (_, files) ← draw.run .empty
  let values : List (String × String) ← Bxml.Locale.settings.filterMapM fun name => do
    return (← IO.getEnv name).map (name, ·)
  let report := run ⟨files, directory, fun name => values.lookup name⟩ args
  IO.print report.output
  IO.eprint report.errors
  return report.exit.toUInt32
