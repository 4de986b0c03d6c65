import Bxml.Json.Basic

/-!
# Writing JSON

The compact form has no blanks; the pretty form puts every item on a line of its own, indented by
two spaces. Quotes, backslashes and control characters are escaped.
-/

namespace Bxml.Json

/-- A control character by its code. -/
def escapeCode (c : Char) : List Char :=
  let digit (n : Nat) := if n < 10 then Char.ofNat (n + 48) else Char.ofNat (n + 87)
  ['\\', 'u', '0', '0', digit (c.toNat / 16), digit (c.toNat % 16)]

/-- `c` as it stands in a JSON string. -/
def escapeChar (c : Char) : List Char :=
  if c = '"' then ['\\', '"']
  else if c = '\\' then ['\\', '\\']
  else if c = '\n' then ['\\', 'n']
  else if c = '\r' then ['\\', 'r']
  else if c = '\t' then ['\\', 't']
  else if c = '\x08' then ['\\', 'b']
  else if c = '\x0c' then ['\\', 'f']
  else if c.toNat < 32 then escapeCode c
  else [c]

/-- `s` as a JSON string. -/
def writeString (s : String) : List Char := '"' :: s.toList.flatMap escapeChar ++ ['"']

/-- Digits as JSON writes a number that is not an integer: with a point while the exponent is
small, with an exponent otherwise. -/
def writeDigits (d : Binary64.Digits) : List Char :=
  if -5 < d.exponent ∧ d.exponent ≤ 16 then
    if d.digits.length ≤ d.exponent.toNat then d.positional ++ ['.', '0'] else d.positional
  else
    let mantissa :=
      match d.digits with
      | c :: e :: r => c :: '.' :: e :: r
      | l => l
    let e := d.exponent - 1
    mantissa ++ 'e' :: (if e < 0 then [] else ['+']) ++ Text.writeInt e

/-- A floating point number; NaN and the infinities are null. -/
def writeFloat (x : Binary64) : List Char :=
  if !x.isFinite then ['n', 'u', 'l', 'l']
  else
    (if x.isNegative then ['-'] else []) ++
      if x.isZero then ['0', '.', '0'] else writeDigits (x.shortest .even)

/-- How the parts of arrays and objects are set off. -/
structure Layout where
  /-- What stands before an item at the given depth, and before a closing bracket. -/
  newline : Nat → List Char
  /-- What stands after the colon of a field. -/
  afterColon : List Char

def Layout.compact : Layout := ⟨fun _ => [], []⟩

def Layout.pretty : Layout := ⟨fun n => '\n' :: List.replicate (2 * n) ' ', [' ']⟩

mutual

/-- The text of a value at the given depth. -/
def write (y : Layout) (depth : Nat) : Json → List Char
  | .null => ['n', 'u', 'l', 'l']
  | .bool true => ['t', 'r', 'u', 'e']
  | .bool false => ['f', 'a', 'l', 's', 'e']
  | .int i => Text.writeInt i.toInt
  | .float x => writeFloat x
  | .string s => writeString s
  | .array [] => ['[', ']']
  | .array (v :: vs) =>
    '[' :: y.newline (depth + 1) ++ write y (depth + 1) v ++ writeItems y depth vs
  | .object [] => ['\x7b', '\x7d']
  | .object ((k, v) :: fs) =>
    '\x7b' :: y.newline (depth + 1) ++ writeString k ++ ':' :: y.afterColon ++
      write y (depth + 1) v ++ writeFields y depth fs

/-- The text of the items after the first, and of the closing bracket. -/
def writeItems (y : Layout) (depth : Nat) : List Json → List Char
  | [] => y.newline depth ++ [']']
  | v :: vs => ',' :: y.newline (depth + 1) ++ write y (depth + 1) v ++ writeItems y depth vs

/-- The text of the fields after the first, and of the closing brace. -/
def writeFields (y : Layout) (depth : Nat) : List (String × Json) → List Char
  | [] => y.newline depth ++ ['\x7d']
  | (k, v) :: fs =>
    ',' :: y.newline (depth + 1) ++ writeString k ++ ':' :: y.afterColon ++
      write y (depth + 1) v ++ writeFields y depth fs

end

/-- A value on one line. -/
def compact (v : Json) : String := String.ofList (write .compact 0 v)

/-- A value on several lines. -/
def pretty (v : Json) : String := String.ofList (write .pretty 0 v)

end Bxml.Json
