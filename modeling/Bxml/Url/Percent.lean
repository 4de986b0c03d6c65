/-!
# Percent encoding

Characters of an encode set are written as the hexadecimal bytes of their UTF-8 form. Characters
outside ASCII and control characters belong to every set.
-/

namespace Bxml.Url

/-- The UTF-8 bytes of a text. -/
def utf8 (l : List Char) : List UInt8 := l.flatMap String.utf8EncodeChar

/-- Control characters and everything outside ASCII. -/
def controlSet (c : Char) : Bool := c.toNat < 0x20 || 0x7E < c.toNat

/-- What is encoded in a fragment. -/
def fragmentSet (c : Char) : Bool :=
  controlSet c || c == ' ' || c == '"' || c == '<' || c == '>' || c == '`'

/-- What is encoded in a path. -/
def pathSet (c : Char) : Bool :=
  fragmentSet c || c == '#' || c == '?' || c == '\x7b' || c == '\x7d'

/-- What is encoded in one segment of a path that is given as a file name. -/
def segmentSet (c : Char) : Bool :=
  pathSet c || c == '/' || c == '%' || c == '\\'

/-- What is encoded in a user name and a password. -/
def userInfoSet (c : Char) : Bool :=
  pathSet c || c == '/' || c == ':' || c == ';' || c == '=' || c == '@' || c == '[' ||
    c == '\\' || c == ']' || c == '^' || c == '|'

/-- What is encoded in a query. -/
def querySet (special : Bool) (c : Char) : Bool :=
  controlSet c || c == ' ' || c == '"' || c == '#' || c == '<' || c == '>' ||
    (special && c == '\'')

/-- A hexadecimal digit in uppercase. -/
def hexDigit (n : Nat) : Char :=
  if n < 10 then Char.ofNat (n + 48) else Char.ofNat (n + 55)

/-- A byte as a percent sign and two hexadecimal digits. -/
def percentByte (b : UInt8) : List Char :=
  ['%', hexDigit (b.toNat / 16), hexDigit (b.toNat % 16)]

/-- A text with the characters of `set` percent-encoded. -/
def percentEncode (set : Char → Bool) (l : List Char) : List Char :=
  l.flatMap fun c => if set c then (String.utf8EncodeChar c).flatMap percentByte else [c]

/-- The value of a hexadecimal digit. -/
def hexValue? (c : Char) : Option Nat :=
  if '0' ≤ c ∧ c ≤ '9' then some (c.toNat - 48)
  else if 'a' ≤ c ∧ c ≤ 'f' then some (c.toNat - 87)
  else if 'A' ≤ c ∧ c ≤ 'F' then some (c.toNat - 55)
  else none

/-- The bytes a text stands for. A percent sign without two hexadecimal digits stands for itself. -/
def percentDecode : List Char → List UInt8
  | [] => []
  | [c] => String.utf8EncodeChar c
  | [c, d] => String.utf8EncodeChar c ++ String.utf8EncodeChar d
  | c :: d :: e :: r =>
    if c == '%' then
      match hexValue? d, hexValue? e with
      | some x, some y => UInt8.ofNat (16 * x + y) :: percentDecode r
      | _, _ => UInt8.ofNat c.toNat :: percentDecode (d :: e :: r)
    else String.utf8EncodeChar c ++ percentDecode (d :: e :: r)
termination_by l => l.length

end Bxml.Url
