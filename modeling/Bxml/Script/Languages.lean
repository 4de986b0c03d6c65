import Bxml.Text.Case
import Bxml.World.Object

/-!
# Names of script languages

An engine is found by the name of its language or by the extension of a script file. Neither
depends on the case of ASCII letters.
-/

namespace Bxml

/-- The engines that names and file extensions stand for. -/
structure Languages where
  byName : Entries EngineId
  byExtension : Entries EngineId

namespace Languages

/-- No engines. -/
def empty : Languages := ⟨.empty, .empty⟩

/-- An extension without the dots in front of it. -/
def bareExtension (extension : String) : String :=
  String.ofList (extension.toList.dropWhile (· == '.'))

/-- Makes an engine known under its language, further names and file extensions. A name that is
known already stands for the new engine from now on. -/
def register (l : Languages) (e : EngineId) (language : String) (aliases extensions : List String) :
    Languages where
  byName := (language :: aliases).foldl (fun m n => m.insert (Text.asciiLower n) e) l.byName
  byExtension := extensions.foldl
    (fun m x => m.insert (Text.asciiLower (bareExtension x)) e) l.byExtension

/-- The engine of a language. -/
def named? (l : Languages) (language : String) : Option EngineId :=
  l.byName.get? (Text.asciiLower language)

/-- The engine for files with the given extension. -/
def forExtension? (l : Languages) (extension : String) : Option EngineId :=
  l.byExtension.get? (Text.asciiLower extension)

end Languages

end Bxml
