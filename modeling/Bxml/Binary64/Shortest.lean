import Bxml.Binary64.Round

/-!
# The shortest decimal that reads back

Every finite number stands for an interval of reals: those that round to it. Its digits are the
fewest whose value lies in that interval, and of two candidates the nearer one. A rule decides
between two that are equally near.
-/

namespace Bxml.Binary64

/-- Digits `d` and exponent `e` of the number `0.d * 10 ^ e`. -/
structure Digits where
  digits : List Char
  exponent : Int
deriving Repr, DecidableEq

/-- Which of two neighbours on a decimal grid is taken when both are equally near. -/
inductive TieRule
  | larger
  | even
deriving Repr, DecidableEq

/-- The nearer of the neighbours `c` and `c + 1`, given how far away the two are. -/
def TieRule.nearer (r : TieRule) (c below above : Nat) : Nat :=
  if below < above then c
  else if above < below then c + 1
  else
    match r with
    | .larger => c + 1
    | .even => if c % 2 = 0 then c else c + 1

/-- How many decimal digits `n` has. -/
def decimalLength (n : Nat) : Nat := (Nat.toDigits 10 n).length

/-- The exponent `e` with `10 ^ (e - 1) ≤ num / den < 10 ^ e`. -/
def decimalExponent (num den : Nat) : Int :=
  if den ≤ num then decimalLength (num / den)
  else
    let e : Int := 1 - (decimalLength (den / num) : Int)
    if den = num * Nat.pow 10 (-e).toNat then e + 1 else e

/-- The ends of the interval of `x` and `x` itself, in quarters of its unit. -/
def quarters (x : Binary64) : Nat × Nat × Nat :=
  let m := 4 * x.significand
  (if x.fraction = 0 ∧ 1 < x.exponentField then m - 1 else m - 2, m, m + 2)

/-- The point of the decimal grid with `k` digits that stands for `x`, if one lies in the interval
of `x`. The arguments are `x` and the interval in units of `1 / den`. -/
def gridPoint? (r : TieRule) (low value high den : Nat) (closed : Bool) (e : Int) (k : Nat) :
    Option Nat :=
  -- one step of the grid is `10 ^ s`
  let s : Int := e - k
  let up := Nat.pow 10 (-s).toNat
  let step := den * Nat.pow 10 s.toNat
  let inside (c : Nat) : Bool :=
    let p := c * step
    if closed then low * up ≤ p && p ≤ high * up else low * up < p && p < high * up
  let c := value * up / step
  let below := inside c
  let above := inside (c + 1)
  if below && above then
    some (r.nearer c (value * up - c * step) ((c + 1) * step - value * up))
  else if below then some c
  else if above then some (c + 1)
  else none

/-- The digits of `x`, for finite `x` other than zero. -/
def shortest (r : TieRule) (x : Binary64) : Digits :=
  let (low, value, high) := x.quarters
  let q := x.scale - 2
  let times := Nat.pow 2 q.toNat
  let den := Nat.pow 2 (-q).toNat
  let e := decimalExponent (value * times) den
  let closed := x.significand % 2 == 0
  let found := (List.range 17).findSome? fun i =>
    (gridPoint? r (low * times) (value * times) (high * times) den closed e (i + 1)).map
      fun c => (c, i + 1)
  match found with
  | some (c, k) =>
    let ds := Nat.toDigits 10 c
    ⟨(ds.reverse.dropWhile (· == '0')).reverse, e + ((ds.length : Int) - k)⟩
  | none => ⟨[], e⟩

end Bxml.Binary64
