import Bxml.Text.CaseTable

/-!
# Letter case

The Unicode properties Uppercase and Lowercase and the full case mappings. ASCII is settled
without the tables.
-/

namespace Bxml.Text

open CaseTable

/-- Whether code point `n` lies on one of the runs. -/
def onRun (runs : List (Nat × Nat × Nat)) (n : Nat) : Bool :=
  runs.any fun r => r.1 ≤ n && n ≤ r.2.1 && (n - r.1) % r.2.2 == 0

/-- Whether `c` has the Unicode property Uppercase. -/
def isUppercase (c : Char) : Bool :=
  if c.toNat < 128 then c.isUpper else onRun upperRuns c.toNat

/-- Whether `c` has the Unicode property Lowercase. -/
def isLowercase (c : Char) : Bool :=
  if c.toNat < 128 then c.isLower else onRun lowerRuns c.toNat

/-- The image of `c` under a case mapping given by its special cases and its runs. -/
def mapCase (special : List (Nat × List Nat)) (runs : List (Nat × Nat × Nat × Int)) (c : Char) :
    List Char :=
  match special.lookup c.toNat with
  | some l => l.map Char.ofNat
  | none =>
    match runs.find? fun r =>
        r.1 ≤ c.toNat && c.toNat ≤ r.2.1 && (c.toNat - r.1) % r.2.2.1 == 0 with
    | some r => [Char.ofNat ((c.toNat : Int) + r.2.2.2).toNat]
    | none => [c]

/-- The lowercase form of `c`. -/
def toLowercase (c : Char) : List Char :=
  if c.toNat < 128 then [c.toLower] else mapCase toLowerSpecial toLowerRuns c

/-- The uppercase form of `c`. -/
def toUppercase (c : Char) : List Char :=
  if c.toNat < 128 then [c.toUpper] else mapCase toUpperSpecial toUpperRuns c

/-- `s` with every character in uppercase. -/
def upcase (s : String) : String := String.ofList (s.toList.flatMap toUppercase)

/-- `s` with ASCII letters in lowercase. -/
def asciiLower (s : String) : String := String.ofList (s.toList.map Char.toLower)

/-- `s` with ASCII letters in uppercase. -/
def asciiUpper (s : String) : String := String.ofList (s.toList.map Char.toUpper)

end Bxml.Text
