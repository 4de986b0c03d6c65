import Bxml.Text.HiddenTable

/-!
# Quoted text

A quoted text stands between double quotes. A quote and a backslash take a backslash, the common
controls their letter, and a character without a glyph of its own is written as its code point in
hexadecimal between braces.
-/

namespace Bxml.Text

open HiddenTable

/-- Whether `c` shows nothing of its own. -/
def isHidden (c : Char) : Bool :=
  if c.toNat < 127 then c.toNat < 32
  else hiddenRuns.any fun r => r.1 ≤ c.toNat && c.toNat ≤ r.2

/-- `c` as it is written between quotes. -/
def quoteChar (c : Char) : List Char :=
  if c = '"' then ['\\', '"']
  else if c = '\\' then ['\\', '\\']
  else if c = '\n' then ['\\', 'n']
  else if c = '\r' then ['\\', 'r']
  else if c = '\t' then ['\\', 't']
  else if c = '\x00' then ['\\', '0']
  else if isHidden c then ['\\', 'u', '\x7b'] ++ Nat.toDigits 16 c.toNat ++ ['\x7d']
  else [c]

/-- `s` between double quotes. -/
def quoted (s : String) : String :=
  String.ofList ('"' :: s.toList.flatMap quoteChar ++ ['"'])

end Bxml.Text
