import Bxml.Text.Blank
import Bxml.Text.Case
import Bxml.Url.Host

/-!
# Locales

A locale is a language, perhaps with a country. Its tag may be followed by an encoding or a
modifier, which do not matter.
-/

namespace Bxml

/-- A language with an optional country. -/
structure Locale where
  language : String
  country : Option String
deriving DecidableEq, Repr

namespace Locale

/-- The locale of a language and a country: languages are in lowercase, countries in uppercase. -/
def of (language : String) (country : Option String) : Locale :=
  ⟨Text.asciiLower language, country.map Text.asciiUpper⟩

/-- Whether a part of a tag is a language or a country. -/
def isWord (l : List Char) : Bool := !l.isEmpty && l.all Char.isAlpha

/-- The parts of a tag. -/
def parts (tag : String) : List (List Char) :=
  let l := Text.trimChars (tag.toList.takeWhile fun c => c != '.' && c != '@')
  Url.Host.splitOn '_' (l.map fun c => if c == '-' then '_' else c)

/-- The locale with the given tag. -/
def parse? (tag : String) : Option Locale :=
  match parts tag with
  | language :: rest =>
    if isWord language then
      some (of (String.ofList language) ((rest.head?.filter isWord).map String.ofList))
    else none
  | [] => none

/-- The tag of a locale. -/
def text (l : Locale) : String :=
  match l.country with
  | some c => s!"{l.language}_{c}"
  | none => l.language

/-- What is added to the name of a bundle for its overlays, the most general first. -/
def suffixes (l : Locale) : List String :=
  ("_" ++ l.language) :: (l.country.map fun c => s!"_{l.language}_{c}").toList

/-- The variables that name the locale of an environment, the more important first. -/
def settings : List String := ["LC_ALL", "LANG"]

/-- The values of the variables that ask for no locale. -/
def neutral : List String := ["", "C", "POSIX"]

/-- The locale that an environment asks for. -/
def ofEnvironment? (value? : String → Option String) : Option Locale :=
  ((settings.filterMap value?).find? fun v => !neutral.contains v).bind parse?

end Locale

end Bxml
