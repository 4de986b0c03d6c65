import Bxml.Json.Basic
import Bxml.Text.Utf8

/-!
# Reading JSON

The reader works on bytes and reports the place where it stopped. Numbers with a fraction or an
exponent are the rounded product of their rounded digits and a power of ten.
-/

namespace Bxml.Json

/-- What a reader of JSON stumbled over. -/
inductive Fault
  | eofValue
  | eofList
  | eofObject
  | eofString
  | expectedValue
  | expectedIdent
  | expectedColon
  | expectedListEnd
  | expectedObjectEnd
  | trailingComma
  | trailingCharacters
  | keyNotString
  | invalidNumber
  | numberOutOfRange
  | invalidEscape
  | invalidCodePoint
  | loneSurrogate
  | escapeEnd
  | controlCharacter
  | tooDeep
deriving DecidableEq, Repr

/-- The wording of a fault. -/
def Fault.message : Fault → String
  | .eofValue => "EOF while parsing a value"
  | .eofList => "EOF while parsing a list"
  | .eofObject => "EOF while parsing an object"
  | .eofString => "EOF while parsing a string"
  | .expectedValue => "expected value"
  | .expectedIdent => "expected ident"
  | .expectedColon => "expected `:`"
  | .expectedListEnd => "expected `,` or `]`"
  | .expectedObjectEnd => "expected `,` or `\x7d`"
  | .trailingComma => "trailing comma"
  | .trailingCharacters => "trailing characters"
  | .keyNotString => "key must be a string"
  | .invalidNumber => "invalid number"
  | .numberOutOfRange => "number out of range"
  | .invalidEscape => "invalid escape"
  | .invalidCodePoint => "invalid unicode code point"
  | .loneSurrogate => "lone leading surrogate in hex escape"
  | .escapeEnd => "unexpected end of hex escape"
  | .controlCharacter => "control character (\\u0000-\\u001F) found while parsing a string"
  | .tooDeep => "recursion limit exceeded"

/-- A fault and how many bytes were read up to and with it. -/
structure Failure where
  fault : Fault
  offset : Nat
deriving DecidableEq, Repr

/-- Where the reader stands: how many bytes it has read, and the rest. -/
structure Cursor where
  index : Nat
  rest : List UInt8

abbrev Reading (α : Type) := Except Failure α

namespace Cursor

/-- The cursor after `n` more bytes. -/
def skip (c : Cursor) (n : Nat) : Cursor := ⟨c.index + min n c.rest.length, c.rest.drop n⟩

/-- A fault at the next byte, or at the end. -/
def failNext {α : Type} (c : Cursor) (f : Fault) : Except Failure α :=
  .error ⟨f, c.index + min 1 c.rest.length⟩

/-- A fault at the last byte read. -/
def failHere {α : Type} (c : Cursor) (f : Fault) : Except Failure α := .error ⟨f, c.index⟩

/-- The cursor after white space. -/
def skipBlank (c : Cursor) : Cursor :=
  c.skip (c.rest.takeWhile fun b => b == 32 || b == 10 || b == 9 || b == 13).length

end Cursor

/-- The byte of an ASCII character. -/
def byte (c : Char) : UInt8 := UInt8.ofNat c.toNat

def isDigit (b : UInt8) : Bool := byte '0' ≤ b && b ≤ byte '9'

/-- Reads the rest of a word. -/
def readWord (v : Json) : List Char → Cursor → Reading (Json × Cursor)
  | [], c => .ok (v, c)
  | e :: es, c =>
    match c.rest with
    | [] => c.failHere .eofValue
    | b :: _ => if b == byte e then readWord v es (c.skip 1) else (c.skip 1).failHere .expectedIdent

/-- Reads four hexadecimal digits. -/
def readHex4 (c : Cursor) : Reading (Nat × Cursor) :=
  match c.rest with
  | a :: b :: d :: e :: _ =>
    let value (x : UInt8) : Option Nat :=
      let ch := Char.ofNat x.toNat
      if ch.isDigit then some (ch.toNat - 48)
      else if 'a' ≤ ch ∧ ch ≤ 'f' then some (ch.toNat - 87)
      else if 'A' ≤ ch ∧ ch ≤ 'F' then some (ch.toNat - 55)
      else none
    match value a, value b, value d, value e with
    | some p, some q, some r, some s => .ok (((p * 16 + q) * 16 + r) * 16 + s, c.skip 4)
    | _, _, _, _ => (c.skip 4).failHere .invalidEscape
  | r => (c.skip r.length).failHere .eofString

/-- Reads the code point after a backslash and `u`. -/
def readCodePoint (c : Cursor) : Reading (Char × Cursor) := do
  let (n, c) ← readHex4 c
  if 0xDC00 ≤ n ∧ n ≤ 0xDFFF then c.failHere .loneSurrogate
  else if n < 0xD800 ∨ 0xDBFF < n then .ok (Char.ofNat n, c)
  else
    match c.rest with
    | [] => c.failHere .eofString
    | a :: r =>
      if a != byte '\\' then (c.skip 1).failHere .escapeEnd
      else
        match r with
        | [] => (c.skip 1).failHere .eofString
        | b :: _ =>
          if b != byte 'u' then (c.skip 2).failHere .escapeEnd
          else do
            let (m, c) ← readHex4 (c.skip 2)
            if m < 0xDC00 ∨ 0xDFFF < m then c.failHere .loneSurrogate
            else .ok (Char.ofNat ((n - 0xD800) * 1024 + (m - 0xDC00) + 0x10000), c)

/-- Reads the character after a backslash. -/
def readEscape (c : Cursor) : Reading (Char × Cursor) :=
  match c.rest with
  | [] => c.failHere .eofString
  | b :: _ =>
    let c := c.skip 1
    if b == byte '"' then .ok ('"', c)
    else if b == byte '\\' then .ok ('\\', c)
    else if b == byte '/' then .ok ('/', c)
    else if b == byte 'b' then .ok ('\x08', c)
    else if b == byte 'f' then .ok ('\x0c', c)
    else if b == byte 'n' then .ok ('\n', c)
    else if b == byte 'r' then .ok ('\r', c)
    else if b == byte 't' then .ok ('\t', c)
    else if b == byte 'u' then readCodePoint c
    else c.failHere .invalidEscape

/-- Reads a string after its first quote. A byte that starts no character is reported when the
string has ended. -/
def readString : Nat → Cursor → List Char → Option Nat → Reading (String × Cursor)
  | 0, c, _, _ => c.failHere .eofString
  | fuel + 1, c, done, bad =>
    match c.rest with
    | [] => c.failHere .eofString
    | b :: _ =>
      if b == byte '"' then
        match bad with
        | some i => .error ⟨.invalidCodePoint, i + 1⟩
        | none => .ok (String.ofList done.reverse, c.skip 1)
      else if b == byte '\\' then do
        let (ch, c) ← readEscape (c.skip 1)
        readString fuel c (ch :: done) bad
      else if b < 32 then (c.skip 1).failHere .controlCharacter
      else
        match Text.utf8Char? c.rest with
        | some (ch, n) => readString fuel (c.skip n) (ch :: done) bad
        | none => readString fuel (c.skip 1) done (bad.or (some c.index))

/-- The powers of ten that divide or multiply digits in one step. -/
def largestPower : Nat := 308

/-- The rounded number `significand * 10 ^ e`. Large powers are applied in steps. -/
def scaleDigits (c : Cursor) (negative : Bool) : Nat → Binary64 → Int → Reading (Json × Cursor)
  | 0, x, _ => .ok (.float (if negative then x.neg else x), c)
  | fuel + 1, x, e =>
    let power (n : Nat) := Binary64.ofRatio false (Nat.pow 10 n) 1
    if e.natAbs ≤ largestPower then
      if 0 ≤ e then
        let y := x.mulFinite (power e.natAbs)
        if y.isInfinite then c.failHere .numberOutOfRange
        else .ok (.float (if negative then y.neg else y), c)
      else
        let y := x.divFinite (power e.natAbs)
        .ok (.float (if negative then y.neg else y), c)
    else if x.isZero then .ok (.float (if negative then x.neg else x), c)
    else if 0 ≤ e then c.failHere .numberOutOfRange
    else scaleDigits c negative fuel (x.divFinite (power largestPower)) (e + (largestPower : Int))

/-- The number made of a significand below 2^64 and a power of ten. -/
def numberOfParts (c : Cursor) (negative : Bool) (significand : Nat) (e : Int) : Reading (Json × Cursor) :=
  scaleDigits c negative 8 (Binary64.ofInt significand) (max e (-2000))

/-- Reads an exponent, standing at its `e`. -/
def readExponent (c : Cursor) (negative : Bool) (significand : Nat) (start : Int) :
    Reading (Json × Cursor) :=
  let c := c.skip 1
  let (down, c) :=
    match c.rest with
    | b :: _ => if b == byte '+' then (false, c.skip 1) else if b == byte '-' then (true, c.skip 1)
      else (false, c)
    | [] => (false, c)
  match c.rest with
  | [] => c.failHere .eofValue
  | b :: _ =>
    if !isDigit b then (c.skip 1).failHere .invalidNumber
    else
      let ds := c.rest.takeWhile isDigit
      let value : Nat := ds.foldl (fun n b => n * 10 + (b.toNat - 48)) 0
      if Nat.pow 2 31 ≤ value then
        if significand != 0 && !down then
          -- the digit that makes the exponent too large is the last one read
          let fits := (List.range ds.length).find? fun i =>
            Nat.pow 2 31 ≤ (ds.take (i + 1)).foldl (fun n b => n * 10 + (b.toNat - 48)) 0
          (c.skip (fits.getD 0 + 1)).failHere .numberOutOfRange
        else .ok (.float (Binary64.zero negative), c.skip ds.length)
      else
        numberOfParts (c.skip ds.length) negative significand
          (if down then start - value else start + value)

/-- Takes digits while the significand stays below 2^64. -/
def takeDigits : List UInt8 → Nat → Nat → Nat × Nat × Bool
  | [], s, n => (s, n, false)
  | b :: r, s, n =>
    if !isDigit b then (s, n, false)
    else if Nat.pow 2 64 ≤ s * 10 + (b.toNat - 48) then (s, n, true)
    else takeDigits r (s * 10 + (b.toNat - 48)) (n + 1)

/-- The number after its digits: an exponent may follow. -/
def readTail (c : Cursor) (negative : Bool) (significand : Nat) (e : Int) : Reading (Json × Cursor) :=
  match c.rest with
  | b :: _ =>
    if b == byte 'e' || b == byte 'E' then readExponent c negative significand e
    else numberOfParts c negative significand e
  | [] => numberOfParts c negative significand e

/-- Reads a fraction, standing at its point. -/
def readFraction (c : Cursor) (negative : Bool) (significand : Nat) (start : Int) :
    Reading (Json × Cursor) :=
  let c := c.skip 1
  let (s, n, full) := takeDigits c.rest significand 0
  let c := c.skip n
  if full then
    readTail (c.skip (c.rest.takeWhile isDigit).length) negative s (start - n)
  else if n == 0 then
    match c.rest with
    | [] => c.failNext .eofValue
    | _ => c.failNext .invalidNumber
  else readTail c negative s (start - n)

/-- Reads a number after its sign. -/
def readNumber (c : Cursor) (negative : Bool) : Reading (Json × Cursor) :=
  match c.rest with
  | [] => c.failHere .eofValue
  | b :: r =>
    if !isDigit b then (c.skip 1).failHere .invalidNumber
    else
      let zeroLed := b == byte '0' &&
        match r with
        | d :: _ => isDigit d
        | [] => false
      if zeroLed then (c.skip 1).failNext .invalidNumber
      else
        let (s, n, full) := takeDigits c.rest 0 0
        let c := c.skip n
        let skipped := if full then (c.rest.takeWhile isDigit).length else 0
        let c := c.skip skipped
        match c.rest with
        | d :: _ =>
          if d == byte '.' then readFraction c negative s skipped
          else if d == byte 'e' || d == byte 'E' then readExponent c negative s skipped
          else whole c s skipped
        | [] => whole c s skipped
where
  whole (c : Cursor) (s skipped : Nat) : Reading (Json × Cursor) :=
    if skipped != 0 then numberOfParts c negative s skipped
    else if negative then
      if s = 0 then .ok (.float (Binary64.zero true), c)
      else if s ≤ Nat.pow 2 63 then .ok (.int (Int64.ofInt (-(s : Int))), c)
      else .ok (.float (Binary64.ofInt (-(s : Int))), c)
    else if s < Nat.pow 2 63 then .ok (.int (Int64.ofInt s), c)
    else .ok (.float (Binary64.ofInt s), c)

/-- Reads an item of an array, and the others with `rest`. -/
def readItem (item : Cursor → Reading (Json × Cursor)) (rest : Cursor → Reading (List Json × Cursor))
    (c : Cursor) : Reading (List Json × Cursor) := do
  let (v, c) ← item c
  let (vs, c) ← rest c
  return (v :: vs, c)

/-- Reads the items of an array after its bracket. -/
def readItems (item : Cursor → Reading (Json × Cursor)) : Nat → Bool → Cursor → Reading (List Json × Cursor)
  | 0, _, c => c.failNext .eofList
  | fuel + 1, first, c =>
    let c := c.skipBlank
    match c.rest with
    | [] => c.failNext .eofList
    | b :: _ =>
      if b == byte ']' then .ok ([], c.skip 1)
      else if first then readItem item (readItems item fuel false) c
      else if b == byte ',' then
        let c := (c.skip 1).skipBlank
        match c.rest with
        | [] => c.failNext .eofValue
        | b :: _ =>
          if b == byte ']' then c.failNext .trailingComma
          else readItem item (readItems item fuel false) c
      else c.failNext .expectedListEnd

/-- Reads a field of an object, and the others with `rest`. -/
def readField (item : Cursor → Reading (Json × Cursor))
    (rest : Cursor → Reading (List (String × Json) × Cursor)) (c : Cursor) :
    Reading (List (String × Json) × Cursor) :=
  match c.rest with
  | [] => c.failNext .eofObject
  | b :: _ =>
    if b != byte '"' then c.failNext .keyNotString
    else do
      let (k, c) ← readString c.rest.length (c.skip 1) [] none
      let c := c.skipBlank
      match c.rest with
      | [] => c.failNext .eofObject
      | b :: _ =>
        if b != byte ':' then c.failNext .expectedColon
        else
          let (v, c) ← item (c.skip 1)
          let (fs, c) ← rest c
          return ((k, v) :: fs, c)

/-- Reads the fields of an object after its brace. -/
def readFields (item : Cursor → Reading (Json × Cursor)) :
    Nat → Bool → Cursor → Reading (List (String × Json) × Cursor)
  | 0, _, c => c.failNext .eofObject
  | fuel + 1, first, c =>
    let c := c.skipBlank
    match c.rest with
    | [] => c.failNext .eofObject
    | b :: _ =>
      if b == byte '\x7d' then .ok ([], c.skip 1)
      else if first then readField item (readFields item fuel false) c
      else if b == byte ',' then
        let c := (c.skip 1).skipBlank
        match c.rest with
        | [] => c.failNext .eofValue
        | b :: _ =>
          if b == byte '\x7d' then c.failNext .trailingComma
          else readField item (readFields item fuel false) c
      else c.failNext .expectedObjectEnd

/-- Reads a value with at most `depth - 1` arrays and objects around each other. -/
def readValue : Nat → Cursor → Reading (Json × Cursor)
  | 0, c => c.failNext .tooDeep
  | depth + 1, c =>
    let c := c.skipBlank
    match c.rest with
    | [] => c.failNext .eofValue
    | b :: _ =>
      if b == byte 'n' then readWord .null ['u', 'l', 'l'] (c.skip 1)
      else if b == byte 't' then readWord (.bool true) ['r', 'u', 'e'] (c.skip 1)
      else if b == byte 'f' then readWord (.bool false) ['a', 'l', 's', 'e'] (c.skip 1)
      else if b == byte '-' then readNumber (c.skip 1) true
      else if isDigit b then readNumber c false
      else if b == byte '"' then do
        let (s, c) ← readString c.rest.length (c.skip 1) [] none
        return (.string s, c)
      else if b == byte '[' then
        if depth == 0 then c.failNext .tooDeep
        else do
          let (vs, c) ← readItems (readValue depth) c.rest.length true (c.skip 1)
          return (.array vs, c)
      else if b == byte '\x7b' then
        if depth == 0 then c.failNext .tooDeep
        else do
          let (fs, c) ← readFields (readValue depth) c.rest.length true (c.skip 1)
          return (ofFields fs, c)
      else c.failNext .expectedValue

/-- How deep arrays and objects may be nested, and one more. -/
def depthLimit : Nat := 128

/-- Reads a text that holds one JSON value. -/
def parse (bytes : List UInt8) : Except Failure Json := do
  let (v, c) ← readValue depthLimit ⟨0, bytes⟩
  let c := c.skipBlank
  match c.rest with
  | [] => .ok v
  | _ => c.failNext .trailingCharacters

/-- A failure with its line and column in the text. -/
def Failure.message (bytes : List UInt8) (f : Failure) : String :=
  let before := bytes.take f.offset
  let column := (before.reverse.takeWhile (· != 10)).length
  let line := 1 + ((before.take (before.length - column)).filter (· == 10)).length
  s!"{f.fault.message} at line {line} column {column}"

end Bxml.Json
