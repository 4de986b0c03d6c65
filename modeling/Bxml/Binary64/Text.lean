import Bxml.Binary64.Shortest
import Bxml.Text.Decimal

/-!
# Floating point numbers as text

The plain form has the shortest digits and never an exponent. Reading takes an optional sign, a
decimal with an optional fraction and exponent, or the words for infinity and NaN in any case.
-/

namespace Bxml.Binary64

/-- Digits placed around the decimal point. -/
def Digits.positional (d : Digits) : List Char :=
  if d.exponent ≤ 0 then
    '0' :: '.' :: List.replicate (-d.exponent).toNat '0' ++ d.digits
  else if d.digits.length ≤ d.exponent.toNat then
    d.digits ++ List.replicate (d.exponent.toNat - d.digits.length) '0'
  else
    d.digits.take d.exponent.toNat ++ '.' :: d.digits.drop d.exponent.toNat

/-- The plain form of a number. -/
def toText (x : Binary64) : String :=
  if x.isNaN then "NaN"
  else
    let sign := if x.isNegative then ['-'] else []
    let body :=
      if x.isInfinite then ['i', 'n', 'f']
      else if x.isZero then ['0']
      else (x.shortest .larger).positional
    String.ofList (sign ++ body)

/-- A decimal as read: its digits without the point, and the power of ten they are counted in. -/
structure Decimal where
  digits : List Char
  exponent : Int

/-- The exponent part of a decimal: nothing, or `e` and a whole number. -/
def readExponent? : List Char → Option Int
  | [] => some 0
  | c :: r => if c == 'e' || c == 'E' then Text.readInt? r else none

/-- Reads a decimal without its sign. -/
def readDecimal? (l : List Char) : Option Decimal :=
  let whole := l.takeWhile Char.isDigit
  match l.dropWhile Char.isDigit with
  | '.' :: r =>
    let frac := r.takeWhile Char.isDigit
    if whole.isEmpty && frac.isEmpty then none
    else (readExponent? (r.dropWhile Char.isDigit)).map
      fun e => ⟨whole ++ frac, e - frac.length⟩
  | r => if whole.isEmpty then none else (readExponent? r).map fun e => ⟨whole, e⟩

/-- The nearest number to a decimal. Exponents far outside the range are settled at once. -/
def Decimal.round (negative : Bool) (d : Decimal) : Binary64 :=
  let ds := d.digits.dropWhile (· == '0')
  let top := d.exponent + ds.length
  if ds.isEmpty || top < -330 then zero negative
  else if 310 < top then infinity negative
  else ofDecimal negative (Nat.ofDigitChars 10 ds 0) d.exponent

/-- Reads a number without its sign. -/
def readMagnitude? (negative : Bool) (l : List Char) : Option Binary64 :=
  let word := l.map Char.toLower
  if word == ['i', 'n', 'f'] || word == ['i', 'n', 'f', 'i', 'n', 'i', 't', 'y'] then
    some (infinity negative)
  else if word == ['n', 'a', 'n'] then some nan
  else (readDecimal? l).map (Decimal.round negative)

/-- Reads a number. -/
def ofText? : List Char → Option Binary64
  | '-' :: r => readMagnitude? true r
  | '+' :: r => readMagnitude? false r
  | r => readMagnitude? false r

end Bxml.Binary64
