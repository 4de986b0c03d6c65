import Bxml.Encoding.ChineseTable
import Bxml.Encoding.JisTable
import Bxml.Encoding.KoreanTable
import Bxml.Encoding.TaiwanTable
import Bxml.Text.Utf8

/-!
# Decoding bytes

One function for every form that encoded text takes. A decoder gives all characters or nothing: text
with a malformed sequence is not decoded.
-/

namespace Bxml

/-- The forms that encoded text takes. -/
inductive Encoding.Form
  | utf8
  | utf16 (bigEndian : Bool)
  /-- One byte for every character, with the characters of the upper half. -/
  | single (upper : String)
  | shiftedJapanese
  | eucJapanese
  | escapedJapanese
  | korean
  | chinese
  | taiwan
  | userDefined
  /-- Text that is never decoded. -/
  | replacement
deriving DecidableEq, Repr

namespace Encoding

/-- What a table has in a place without a character. -/
def gap : Char := '\ufffd'

/-- The character at a row and column of a table. -/
def cell? (rows : Array String) (row column : Nat) : Option Char :=
  (rows[row]?.bind fun r => r.toList[column]?).filter (· != gap)

/-- Decodes pairs of bytes as UTF-16 code units. `high` is a leading surrogate that waits for its
trailing one. -/
def utf16From (bigEndian : Bool) (high : Option Nat) : List UInt8 → Option (List Char)
  | [] => if high.isSome then none else some []
  | [_] => none
  | a :: b :: r =>
    let unit := if bigEndian then a.toNat * 256 + b.toNat else b.toNat * 256 + a.toNat
    match high with
    | some h =>
      if 0xDC00 ≤ unit ∧ unit ≤ 0xDFFF then
        (utf16From bigEndian none r).map
          (Char.ofNat ((h - 0xD800) * 1024 + (unit - 0xDC00) + 0x10000) :: ·)
      else none
    | none =>
      if 0xD800 ≤ unit ∧ unit ≤ 0xDBFF then utf16From bigEndian (some unit) r
      else if 0xDC00 ≤ unit ∧ unit ≤ 0xDFFF then none
      else (utf16From bigEndian none r).map (Char.ofNat unit :: ·)

/-- Decodes a byte of an encoding with one byte for every character. -/
def single? (upper : List Char) (b : UInt8) : Option Char :=
  if b < 0x80 then some (Char.ofNat b.toNat)
  else (upper[b.toNat - 0x80]?).filter (· != gap)

/-- The half-width character of a byte in Japanese text. -/
def halfWidth? (b : UInt8) : Option Char :=
  if 0xA1 ≤ b ∧ b ≤ 0xDF then some (Char.ofNat (0xFF61 - 0xA1 + b.toNat)) else none

/-- The character of two bytes in shifted Japanese text. -/
def shiftedPair? (a b : UInt8) : Option Char :=
  if (0x40 ≤ b ∧ b ≤ 0x7E) ∨ (0x80 ≤ b ∧ b ≤ 0xFC) then
    let column := b.toNat - (if b < 0x7F then 0x40 else 0x41)
    let row := a.toNat - (if a < 0xA0 then 0x81 else 0xC1)
    let pointer := row * 188 + column
    if 8836 ≤ pointer ∧ pointer ≤ 10715 then some (Char.ofNat (0xE000 - 8836 + pointer))
    else cell? JisTable.jis0208 (pointer / 94) (pointer % 94)
  else none

def shiftedFrom : List UInt8 → Option (List Char)
  | [] => some []
  | [a] =>
    if a ≤ 0x80 then some [Char.ofNat a.toNat] else (halfWidth? a).map fun c => [c]
  | a :: b :: r =>
    if a ≤ 0x80 then (shiftedFrom (b :: r)).map (Char.ofNat a.toNat :: ·)
    else
      match halfWidth? a with
      | some c => (shiftedFrom (b :: r)).map (c :: ·)
      | none =>
        if (0x81 ≤ a ∧ a ≤ 0x9F) ∨ (0xE0 ≤ a ∧ a ≤ 0xFC) then do
          return (← shiftedPair? a b) :: (← shiftedFrom r)
        else none

/-- Whether `b` is a byte of a row or a column of a Japanese table. -/
def isJisByte (b : UInt8) : Bool := 0xA1 ≤ b && b ≤ 0xFE

def eucFrom : List UInt8 → Option (List Char)
  | [] => some []
  | a :: r =>
    if a < 0x80 then (eucFrom r).map (Char.ofNat a.toNat :: ·)
    else if a = 0x8E then
      match r with
      | b :: r => do return (← halfWidth? b) :: (← eucFrom r)
      | [] => none
    else if a = 0x8F then
      match r with
      | b :: c :: r =>
        if isJisByte b && isJisByte c then do
          return (← cell? JisTable.jis0212 (b.toNat - 0xA1) (c.toNat - 0xA1)) :: (← eucFrom r)
        else none
      | _ => none
    else if isJisByte a then
      match r with
      | b :: r =>
        if isJisByte b then do
          return (← cell? JisTable.jis0208 (a.toNat - 0xA1) (b.toNat - 0xA1)) :: (← eucFrom r)
        else none
      | [] => none
    else none

/-- The sets between which escape sequences switch. -/
inductive EscapedSet
  | ascii
  | roman
  | katakana
  | double
deriving DecidableEq

/-- The set an escape sequence switches to. -/
def escapedSet? (a b : UInt8) : Option EscapedSet :=
  if a = 0x28 ∧ b = 0x42 then some .ascii
  else if a = 0x28 ∧ b = 0x4A then some .roman
  else if a = 0x28 ∧ b = 0x49 then some .katakana
  else if a = 0x24 ∧ (b = 0x40 ∨ b = 0x42) then some .double
  else none

/-- Decodes text in which escape sequences switch sets. `fresh` says that nothing has been read
since the last switch, so that another one is malformed. -/
def escapedFrom (set : EscapedSet) (fresh : Bool) : List UInt8 → Option (List Char)
  | [] => some []
  | a :: r =>
    if a = 0x1B then
      match r with
      | b :: c :: r =>
        match escapedSet? b c with
        | some s => if fresh then none else escapedFrom s true r
        | none => none
      | _ => none
    else
      match set with
      | .ascii =>
        if a < 0x80 ∧ a ≠ 0x0E ∧ a ≠ 0x0F then
          (escapedFrom set false r).map (Char.ofNat a.toNat :: ·)
        else none
      | .roman =>
        if a < 0x80 ∧ a ≠ 0x0E ∧ a ≠ 0x0F then
          let c := if a = 0x5C then '¥' else if a = 0x7E then '‾' else Char.ofNat a.toNat
          (escapedFrom set false r).map (c :: ·)
        else none
      | .katakana =>
        if 0x21 ≤ a ∧ a ≤ 0x5F then
          (escapedFrom set false r).map (Char.ofNat (0xFF61 - 0x21 + a.toNat) :: ·)
        else none
      | .double =>
        match r with
        | b :: r =>
          if 0x21 ≤ a ∧ a ≤ 0x7E ∧ 0x21 ≤ b ∧ b ≤ 0x7E then do
            let c ← cell? JisTable.jis0208 (a.toNat - 0x21) (b.toNat - 0x21)
            return c :: (← escapedFrom set false r)
          else none
        | [] => none

def koreanFrom : List UInt8 → Option (List Char)
  | [] => some []
  | a :: r =>
    if a < 0x80 then (koreanFrom r).map (Char.ofNat a.toNat :: ·)
    else
      match r with
      | b :: r =>
        if 0x81 ≤ a ∧ a ≤ 0xFE ∧ 0x41 ≤ b ∧ b ≤ 0xFE then do
          let c ← cell? KoreanTable.korean (a.toNat - 0x81) (b.toNat - 0x41)
          return c :: (← koreanFrom r)
        else none
      | [] => none

/-- The character of a four-byte sequence by its number. -/
def fourByte? (n : Nat) : Option Char :=
  if (39419 < n ∧ n < 189000) ∨ 1237575 < n then none
  else if n = 7457 then some (Char.ofNat 0xE7C7)
  else if 189000 ≤ n then some (Char.ofNat (0x10000 + (n - 189000)))
  else
    (ChineseTable.fourByteRuns.reverse.find? fun p => p.1 ≤ n).map
      fun p => Char.ofNat (p.2 + (n - p.1))

def chineseFrom : List UInt8 → Option (List Char)
  | [] => some []
  | a :: r =>
    if a < 0x80 then (chineseFrom r).map (Char.ofNat a.toNat :: ·)
    else if a = 0x80 then (chineseFrom r).map ('€' :: ·)
    else if a = 0xFF then none
    else
      match r with
      | [] => none
      | b :: r =>
        if 0x30 ≤ b ∧ b ≤ 0x39 then
          match r with
          | c :: d :: r =>
            if 0x81 ≤ c ∧ c ≤ 0xFE ∧ 0x30 ≤ d ∧ d ≤ 0x39 then do
              let n := (((a.toNat - 0x81) * 10 + (b.toNat - 0x30)) * 126 + (c.toNat - 0x81)) * 10 +
                (d.toNat - 0x30)
              return (← fourByte? n) :: (← chineseFrom r)
            else none
          | _ => none
        else if (0x40 ≤ b ∧ b ≤ 0x7E) ∨ (0x80 ≤ b ∧ b ≤ 0xFE) then do
          let column := b.toNat - (if b < 0x7F then 0x40 else 0x41)
          return (← cell? ChineseTable.chinese (a.toNat - 0x81) column) :: (← chineseFrom r)
        else none

/-- The characters of two bytes in traditional Chinese text; four pairs stand for two characters. -/
def taiwanPair? (a b : UInt8) : Option (List Char) :=
  if (0x40 ≤ b ∧ b ≤ 0x7E) ∨ (0xA1 ≤ b ∧ b ≤ 0xFE) then
    let column := b.toNat - (if b < 0x7F then 0x40 else 0x62)
    let row := a.toNat - 0x81
    match row * 157 + column with
    | 1133 => some ['Ê', '\u0304']
    | 1135 => some ['Ê', '\u030c']
    | 1164 => some ['ê', '\u0304']
    | 1166 => some ['ê', '\u030c']
    | _ => (cell? TaiwanTable.taiwan row column).map fun c => [c]
  else none

def taiwanFrom : List UInt8 → Option (List Char)
  | [] => some []
  | a :: r =>
    if a < 0x80 then (taiwanFrom r).map (Char.ofNat a.toNat :: ·)
    else
      match r with
      | b :: r =>
        if 0x81 ≤ a ∧ a ≤ 0xFE then do return (← taiwanPair? a b) ++ (← taiwanFrom r) else none
      | [] => none

/-- The characters of some bytes in the given form. -/
def Form.decode? (bytes : List UInt8) : Form → Option (List Char)
  | .utf8 => Text.utf8? bytes
  | .utf16 bigEndian => utf16From bigEndian none bytes
  | .single upper =>
    let table := upper.toList
    bytes.mapM (single? table)
  | .shiftedJapanese => shiftedFrom bytes
  | .eucJapanese => eucFrom bytes
  | .escapedJapanese => escapedFrom .ascii false bytes
  | .korean => koreanFrom bytes
  | .chinese => chineseFrom bytes
  | .taiwan => taiwanFrom bytes
  | .userDefined =>
    some (bytes.map fun b =>
      if b < 0x80 then Char.ofNat b.toNat else Char.ofNat (0xF780 + (b.toNat - 0x80)))
  | .replacement => if bytes.isEmpty then some [] else none

end Encoding

end Bxml
