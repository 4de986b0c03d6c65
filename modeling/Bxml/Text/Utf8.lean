/-!
# Reading UTF-8

Bytes are read character by character, in the shortest form only and without surrogates. Reading
stops before the first byte that starts no character.
-/

namespace Bxml.Text

/-- The low six bits of a byte that continues a character. -/
def continuation? (b : UInt8) : Option Nat :=
  if 0x80 ≤ b ∧ b < 0xC0 then some (b.toNat - 0x80) else none

/-- The character with code point `n`, if it is at least `least` and no surrogate. -/
def scalar? (least n : Nat) : Option Char :=
  if least ≤ n ∧ n.isValidChar then some (Char.ofNat n) else none

/-- The first character of some bytes, and how many bytes it takes. -/
def utf8Char? : List UInt8 → Option (Char × Nat)
  | [] => none
  | a :: r =>
    if a < 0x80 then some (Char.ofNat a.toNat, 1)
    else if 0xC2 ≤ a ∧ a < 0xE0 then
      match r with
      | b :: _ => do
        let x ← continuation? b
        let c ← scalar? 0x80 ((a.toNat - 0xC0) * 64 + x)
        return (c, 2)
      | _ => none
    else if 0xE0 ≤ a ∧ a < 0xF0 then
      match r with
      | b :: c :: _ => do
        let x ← continuation? b
        let y ← continuation? c
        let d ← scalar? 0x800 (((a.toNat - 0xE0) * 64 + x) * 64 + y)
        return (d, 3)
      | _ => none
    else if 0xF0 ≤ a ∧ a < 0xF5 then
      match r with
      | b :: c :: d :: _ => do
        let x ← continuation? b
        let y ← continuation? c
        let z ← continuation? d
        let e ← scalar? 0x10000 ((((a.toNat - 0xF0) * 64 + x) * 64 + y) * 64 + z)
        return (e, 4)
      | _ => none
    else none

/-- The characters at the start of some bytes, and the bytes after them. -/
def utf8Prefix (l : List UInt8) : List Char × List UInt8 := go l.length l
where
  go : Nat → List UInt8 → List Char × List UInt8
    | 0, l => ([], l)
    | fuel + 1, l =>
      match utf8Char? l with
      | none => ([], l)
      | some (c, n) =>
        let (cs, rest) := go fuel (l.drop n)
        (c :: cs, rest)

/-- The characters of some bytes, if they are all UTF-8. -/
def utf8? (l : List UInt8) : Option (List Char) :=
  match utf8Prefix l with
  | (cs, []) => some cs
  | _ => none

end Bxml.Text
