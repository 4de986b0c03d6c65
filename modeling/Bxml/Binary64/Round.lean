import Bxml.Binary64.Basic

/-!
# Rounding to a floating point number

The nearest number to a fraction, where a tie goes to the even significand and what is too large
becomes infinite. Whole numbers, decimals, products and quotients are all rounded here, from their
exact value.
-/

namespace Bxml.Binary64

/-- `num / den` as a whole number, a half to the even neighbour. -/
def divNearest (num den : Nat) : Nat :=
  let q := num / den
  let r := num % den
  if 2 * r > den || (2 * r == den && q % 2 == 1) then q + 1 else q

/-- The fraction `num / den` counted in units of `2 ^ e`, as numerator and denominator. -/
def inUnits (num den : Nat) (e : Int) : Nat × Nat :=
  if 0 ≤ e then (num, den * Nat.pow 2 e.toNat) else (num * Nat.pow 2 (-e).toNat, den)

/-- The least unit exponent in which `num / den` has at most 53 binary digits. -/
def unitExponent (num den : Nat) : Int :=
  let e : Int := max ((num.log2 : Int) - (den.log2 : Int) - 53) (-1074)
  let (n, d) := inUnits num den e
  if n / d < Nat.pow 2 53 then e else e + 1

/-- The number nearest to `num / den`, with the given sign. -/
def ofRatio (negative : Bool) (num den : Nat) : Binary64 :=
  if num = 0 then zero negative
  else
    let e := unitExponent num den
    let (n, d) := inUnits num den e
    let magnitude := (e + 1074).toNat * Nat.pow 2 52 + divNearest n d
    if 2047 * Nat.pow 2 52 ≤ magnitude then infinity negative else ofMagnitude negative magnitude

/-- The number nearest to a whole number. -/
def ofInt (i : Int) : Binary64 := ofRatio (decide (i < 0)) i.natAbs 1

/-- `num * 10 ^ e`, rounded. -/
def ofDecimal (negative : Bool) (num : Nat) (e : Int) : Binary64 :=
  if 0 ≤ e then ofRatio negative (num * Nat.pow 10 e.toNat) 1
  else ofRatio negative num (Nat.pow 10 (-e).toNat)

/-- A finite number as a fraction. -/
def toRatio (x : Binary64) : Nat × Nat :=
  if 0 ≤ x.scale then (x.significand * Nat.pow 2 x.scale.toNat, 1)
  else (x.significand, Nat.pow 2 (-x.scale).toNat)

/-- The rounded product of two finite numbers. -/
def mulFinite (x y : Binary64) : Binary64 :=
  let (a, b) := x.toRatio
  let (c, d) := y.toRatio
  ofRatio (x.isNegative != y.isNegative) (a * c) (b * d)

/-- The rounded quotient of two finite numbers, the second not a zero. -/
def divFinite (x y : Binary64) : Binary64 :=
  let (a, b) := x.toRatio
  let (c, d) := y.toRatio
  ofRatio (x.isNegative != y.isNegative) (a * d) (b * c)

/-- `x` with the opposite sign. -/
def neg (x : Binary64) : Binary64 := ⟨x.bits ^^^ 0x8000000000000000⟩

end Bxml.Binary64
