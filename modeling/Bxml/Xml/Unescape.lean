import Bxml.Xml.Fault

/-!
# Entities and character references

The five named entities, and characters by their decimal or hexadecimal code point.
-/

namespace Bxml.Xml

/-- How many bytes a text takes. -/
def byteSize (l : List Char) : Nat := l.foldl (fun n c => n + c.utf8Size) 0

/-- Reads digits of the given base below 2^32. The first fault counts. -/
def readCode (base : Nat) : Nat → List Char → Except ReferenceFault Nat
  | n, [] => .ok n
  | n, c :: r =>
    let digit? : Option Nat :=
      if c.isDigit then some (c.toNat - 48)
      else if 'a' ≤ c ∧ c ≤ 'f' then some (c.toNat - 87)
      else if 'A' ≤ c ∧ c ≤ 'F' then some (c.toNat - 55)
      else none
    match digit?.filter (· < base) with
    | none => .error .digit
    | some d => if Nat.pow 2 32 ≤ n * base + d then .error .tooLarge else readCode base (n * base + d) r

/-- The code point of a character reference without its number sign. -/
def codePoint (l : List Char) : Except ReferenceFault Nat :=
  let (base, ds) := match l with
    | 'x' :: r => (16, r)
    | r => (10, r)
  match ds with
  | [] => .error .empty
  | '+' :: _ => .error .sign
  | '-' :: _ => .error .sign
  | ds => readCode base 0 ds

/-- The character a reference stands for. -/
def referenced (l : List Char) : Except ReferenceFault Char := do
  let n ← codePoint l
  if n = 0 then throw .zero
  if n.isValidChar then return Char.ofNat n
  throw (.codePoint n)

/-- The character of a named entity. -/
def entity? (name : List Char) : Option Char :=
  [("lt", '<'), ("gt", '>'), ("amp", '&'), ("apos", '\''), ("quot", '"')].findSome? fun p =>
    if p.1.toList == name then some p.2 else none

/-- The character of `&name;`, which stands between the given offsets. -/
def expand (name : List Char) (start stop : Nat) : Except EscapeFault Char :=
  match name with
  | '#' :: r => (referenced r).mapError .reference
  | name =>
    match entity? name with
    | some c => .ok c
    | none => .error (.unknownEntity start stop name)

/-- Unescapes a text of `total` bytes from `offset` on. After an `&`, `inside` holds its offset and
what has been read since, backwards. -/
def unescapeFrom (total : Nat) :
    Nat → Option (Nat × List Char) → List Char → Except EscapeFault (List Char)
  | _, none, [] => .ok []
  | _, some (start, _), [] => .error (.unterminated start total)
  | offset, none, c :: r =>
    if c = '&' then unescapeFrom total (offset + 1) (some (offset, [])) r
    else do return c :: (← unescapeFrom total (offset + c.utf8Size) none r)
  | offset, some (start, name), c :: r =>
    if c = '&' then .error (.unterminated start total)
    else if c = ';' then do
      let d ← expand name.reverse (start + 1) offset
      return d :: (← unescapeFrom total (offset + 1) none r)
    else unescapeFrom total (offset + c.utf8Size) (some (start, c :: name)) r

/-- A text with its entities and character references replaced. -/
def unescape (l : List Char) : Except EscapeFault (List Char) :=
  unescapeFrom (byteSize l) 0 none l

end Bxml.Xml
