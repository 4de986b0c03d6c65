import Bxml.Text.Quoted
import Bxml.World.Object

/-!
# Texts for people who look for faults

A record is shown as its name with its fields in braces, a list in brackets and a map in braces,
strings in quotes.
-/

namespace Bxml.Inspect

/-- What opens and closes records and maps. -/
def openBrace : String := "\x7b"

@[inherit_doc openBrace]
def closeBrace : String := "\x7d"

/-- Items in brackets. -/
def list (items : List String) : String := "[" ++ ", ".intercalate items ++ "]"

/-- A map; its keys are quoted. -/
def map (entries : List (String × String)) : String :=
  openBrace ++ ", ".intercalate (entries.map fun p => s!"{Text.quoted p.1}: {p.2}") ++ closeBrace

/-- A record with its fields. -/
def record (name : String) (fields : List (String × String)) : String :=
  name ++ " " ++ openBrace ++ " " ++ ", ".intercalate (fields.map fun p => s!"{p.1}: {p.2}") ++
    " " ++ closeBrace

/-- Something that may be missing. -/
def option : Option String → String
  | some s => s!"Some({s})"
  | none => "None"

end Bxml.Inspect
