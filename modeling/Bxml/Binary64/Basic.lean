/-!
# Binary floating point numbers

A number is its 64 bits: a sign, an exponent field and a fraction. Comparison is the numeric one,
so a NaN differs from itself and the two zeros are equal.
-/

namespace Bxml

/-- A floating point number of 64 bits. -/
structure Binary64 where
  bits : UInt64
deriving DecidableEq, Repr, Inhabited

namespace Binary64

/-- Whether the sign bit is set. -/
def isNegative (x : Binary64) : Bool := Nat.pow 2 63 ≤ x.bits.toNat

/-- The eleven bits of the exponent. -/
def exponentField (x : Binary64) : Nat := x.bits.toNat / Nat.pow 2 52 % Nat.pow 2 11

/-- The low 52 bits. -/
def fraction (x : Binary64) : Nat := x.bits.toNat % Nat.pow 2 52

def isNaN (x : Binary64) : Bool := x.exponentField == 2047 && x.fraction != 0

def isInfinite (x : Binary64) : Bool := x.exponentField == 2047 && x.fraction == 0

def isFinite (x : Binary64) : Bool := x.exponentField != 2047

/-- Whether `x` is one of the two zeros. -/
def isZero (x : Binary64) : Bool := x.exponentField == 0 && x.fraction == 0

/-- The whole number `m` with `|x| = m * 2 ^ x.scale`, for finite `x`. -/
def significand (x : Binary64) : Nat :=
  if x.exponentField = 0 then x.fraction else Nat.pow 2 52 + x.fraction

/-- The power of two that the significand is counted in. -/
def scale (x : Binary64) : Int :=
  if x.exponentField = 0 then -1074 else (x.exponentField : Int) - 1075

/-- The number with the given sign whose other bits, read as a whole number, are `n`. -/
def ofMagnitude (negative : Bool) (n : Nat) : Binary64 :=
  ⟨UInt64.ofNat (n + if negative then Nat.pow 2 63 else 0)⟩

/-- A number that is none. -/
def nan : Binary64 := ofMagnitude false (2047 * Nat.pow 2 52 + Nat.pow 2 51)

def infinity (negative : Bool) : Binary64 := ofMagnitude negative (2047 * Nat.pow 2 52)

def zero (negative : Bool) : Binary64 := ofMagnitude negative 0

/-- Numeric equality. -/
def numEq (x y : Binary64) : Bool :=
  !x.isNaN && !y.isNaN && (x.bits == y.bits || (x.isZero && y.isZero))

instance : BEq Binary64 := ⟨numEq⟩

theorem beq_self {x : Binary64} (h : x.isNaN = false) : (x == x) = true := by
  change numEq x x = true
  simp [numEq, h]

theorem beq_comm (x y : Binary64) : (x == y) = (y == x) := by
  change numEq x y = numEq y x
  simp only [numEq, Bool.and_comm x.isZero, BEq.comm (a := x.bits)]
  cases x.isNaN <;> cases y.isNaN <;> rfl

theorem not_isNaN_of_beq {x y : Binary64} (h : (x == y) = true) :
    x.isNaN = false ∧ y.isNaN = false := by
  change numEq x y = true at h
  simp only [numEq, Bool.and_eq_true, Bool.not_eq_true'] at h
  exact ⟨h.1.1, h.1.2⟩

theorem beq_trans {x y z : Binary64} (h : (x == y) = true) (k : (y == z) = true) :
    (x == z) = true := by
  have nx := (not_isNaN_of_beq h).1
  have nz := (not_isNaN_of_beq k).2
  change numEq x y = true at h
  change numEq y z = true at k
  change numEq x z = true
  simp only [numEq, Bool.and_eq_true, Bool.or_eq_true, Bool.not_eq_true', beq_iff_eq] at h k ⊢
  refine ⟨⟨nx, nz⟩, ?_⟩
  obtain ⟨-, h | h⟩ := h <;> obtain ⟨-, k | k⟩ := k
  · exact .inl (h.trans k)
  · refine .inr ⟨?_, k.2⟩
    simpa [isZero, exponentField, fraction, h] using k.1
  · refine .inr ⟨h.1, ?_⟩
    simpa [isZero, exponentField, fraction, ← k] using h.2
  · exact .inr ⟨h.1, k.2⟩

end Binary64

end Bxml
