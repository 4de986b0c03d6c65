import Bxml.Binary64.Round
import Mathlib.Algebra.Order.Field.Power
import Mathlib.Data.Rat.Cast.Order
import Mathlib.Tactic.FieldSimp
import Mathlib.Tactic.Linarith
import Mathlib.Tactic.NormNum
import Mathlib.Tactic.Positivity

/-!
# Rounding to the nearest number

A fraction rounds to the number in whose interval it lies (`ofRatio_eq`).  The interval reaches
halfway to the neighbours, of which the lower one is nearer below a power of two, and its ends belong
to it when the significand is even.

`RoundsTo` is the interval, as a structure over the rationals in units of the scale of the number,
and `Fits` says that a significand is as large as it can be.  There is one lemma for each function
on the way: `inUnits_eq`, `unitExponent_spec`, `divNearest_eq`, `magnitude_eq`.  The hard case is
just below a power of two, where the fraction is counted in a smaller unit than the number it rounds
to (`unit_of_roundsTo`).
-/

namespace Bxml.Binary64

variable {num den n d m : Nat} {e s : Int} {r : ℚ}

/-! ## Units -/

/-- A fraction in other units, as a rational number. -/
theorem inUnits_eq (num : Nat) (hd : 0 < den) (e : Int) : 0 < (inUnits num den e).2 ∧
    ((inUnits num den e).1 / (inUnits num den e).2 : ℚ) = num / den / 2 ^ e := by
  have power (n : Nat) : ((Nat.pow 2 n : Nat) : ℚ) = 2 ^ n := Nat.cast_pow 2 n
  unfold inUnits
  split
  · next he =>
    obtain ⟨n, rfl⟩ := Int.eq_ofNat_of_zero_le he
    refine ⟨Nat.mul_pos hd (Nat.pow_pos (by decide)), ?_⟩
    rw [Int.toNat_natCast, Nat.cast_mul, power, zpow_natCast, div_div]
  · next he =>
    obtain ⟨n, rfl⟩ : ∃ n : Nat, e = -n := ⟨(-e).toNat, by omega⟩
    refine ⟨hd, ?_⟩
    rw [neg_neg, Int.toNat_natCast, Nat.cast_mul, power, zpow_neg, zpow_natCast, div_inv_eq_mul,
      mul_div_right_comm]

/-- A fraction lies between two powers of two that logarithms tell. -/
theorem ratio_bounds (hn : num ≠ 0) (hd : den ≠ 0) :
    (2 : ℚ) ^ ((num.log2 : Int) - den.log2 - 1) < num / den ∧
      (num / den : ℚ) < 2 ^ ((num.log2 : Int) - den.log2 + 1) := by
  have two : (2 : ℚ) ≠ 0 := two_ne_zero
  have numLow : (2 : ℚ) ^ num.log2 ≤ num := by exact_mod_cast Nat.log2_self_le hn
  have numHigh : (num : ℚ) < 2 ^ (num.log2 + 1) := by exact_mod_cast Nat.lt_log2_self
  have denLow : (2 : ℚ) ^ den.log2 ≤ den := by exact_mod_cast Nat.log2_self_le hd
  have denHigh : (den : ℚ) < 2 ^ (den.log2 + 1) := by exact_mod_cast Nat.lt_log2_self
  constructor
  · calc (2 : ℚ) ^ ((num.log2 : Int) - den.log2 - 1)
        = 2 ^ num.log2 / 2 ^ (den.log2 + 1) := by
          rw [sub_sub, zpow_sub₀ two, zpow_natCast, ← Nat.cast_add_one, zpow_natCast]
      _ ≤ num / 2 ^ (den.log2 + 1) := by gcongr
      _ < num / den := by
          refine div_lt_div_of_pos_left ?_ ?_ denHigh
          · exact_mod_cast Nat.pos_of_ne_zero hn
          · exact_mod_cast Nat.pos_of_ne_zero hd
  · calc (num / den : ℚ) < 2 ^ (num.log2 + 1) / 2 ^ den.log2 := by gcongr
      _ = 2 ^ ((num.log2 : Int) - den.log2 + 1) := by
          rw [sub_add_eq_add_sub, zpow_sub₀ two, zpow_natCast, ← Nat.cast_add_one, zpow_natCast]

/-- The unit of a fraction is the least in which its whole part fits in a significand. -/
theorem unitExponent_spec (hn : num ≠ 0) (hd : den ≠ 0) :
    -1074 ≤ unitExponent num den ∧
      (num / den : ℚ) / 2 ^ unitExponent num den < 2 ^ 53 ∧
      (unitExponent num den = -1074 ∨ (2 : ℚ) ^ 52 ≤ (num / den : ℚ) / 2 ^ unitExponent num den) := by
  have two : (2 : ℚ) ≠ 0 := two_ne_zero
  obtain ⟨low, high⟩ := ratio_bounds hn hd
  unfold unitExponent
  dsimp only
  generalize (num.log2 : Int) - den.log2 = l at low high ⊢
  generalize he : max (l - 53) (-1074) = e
  obtain ⟨positive, units⟩ := inUnits_eq num (Nat.pos_of_ne_zero hd) e
  have least : -1074 ≤ e := he ▸ le_max_right _ _
  have fits : (inUnits num den e).1 / (inUnits num den e).2 < Nat.pow 2 53 ↔
      (num / den : ℚ) / 2 ^ e < 2 ^ 53 := by
    rw [← units, Nat.div_lt_iff_lt_mul positive, div_lt_iff₀ (by exact_mod_cast positive)]
    change _ < 2 ^ 53 * _ ↔ _
    exact_mod_cast Iff.rfl
  split
  · next h =>
    refine ⟨least, fits.1 h, ?_⟩
    rcases max_choice (l - 53) (-1074) with hl | hl
    · right
      rw [← he, hl, le_div_iff₀ (zpow_pos two_pos _), ← zpow_natCast, ← zpow_add₀ two]
      refine le_of_eq_of_le ?_ low.le
      congr 1
      omega
    · exact .inl (he ▸ hl)
  · next h =>
    have large := not_lt.1 (mt fits.2 h)
    have half : (num / den : ℚ) / 2 ^ (e + 1) = num / den / 2 ^ e / 2 := by
      rw [zpow_add_one₀ two, div_mul_eq_div_div]
    rw [half]
    refine ⟨by omega, ?_, .inr ?_⟩
    · rw [div_lt_iff₀ two_pos, div_lt_iff₀ (zpow_pos two_pos _)]
      refine high.trans_le ?_
      calc (2 : ℚ) ^ (l + 1) ≤ 2 ^ (54 + e) := zpow_le_zpow_right₀ one_le_two (by omega)
        _ = 2 ^ 53 * 2 * 2 ^ e := by
          rw [zpow_add₀ two]
          norm_num
    · linarith

/-! ## Intervals -/

/-- Rounding to a whole number gives the one that is no farther than a half away, and of two such
the even one. -/
theorem divNearest_eq_of_le (hd : 0 < d) (low : 2 * (d * m) ≤ 2 * n + d)
    (high : 2 * n ≤ 2 * (d * m) + d)
    (tie : m % 2 = 1 → 2 * (d * m) ≠ 2 * n + d ∧ 2 * n ≠ 2 * (d * m) + d) : divNearest n d = m := by
  unfold divNearest
  dsimp only
  have whole := Nat.div_add_mod n d
  have rest := Nat.mod_lt n hd
  generalize n / d = q at whole ⊢
  generalize n % d = r at whole rest ⊢
  have most : q ≤ m := by
    by_contra hq
    have := Nat.mul_le_mul_left d (show m + 1 ≤ q by omega)
    rw [Nat.mul_add_one] at this
    omega
  have least : m ≤ q + 1 := by
    by_contra hq
    have := Nat.mul_le_mul_left d (show q + 2 ≤ m by omega)
    rw [Nat.mul_add] at this
    omega
  obtain rfl | rfl : q = m ∨ q + 1 = m := by omega
  · have down : ¬ (2 * r > d || (2 * r == d && q % 2 == 1)) = true := by
      simp only [Bool.or_eq_true, decide_eq_true_eq, Bool.and_eq_true, beq_iff_eq]
      rintro (h | ⟨h, odd⟩)
      · omega
      · exact (tie odd).2 (by omega)
    rw [if_neg down]
  · rw [Nat.mul_add_one] at low tie
    have up : (2 * r > d || (2 * r == d && q % 2 == 1)) = true := by
      simp only [Bool.or_eq_true, decide_eq_true_eq, Bool.and_eq_true, beq_iff_eq]
      by_cases odd : (q + 1) % 2 = 1
      · have := (tie odd).1
        omega
      · omega
    rw [if_pos up]

theorem divNearest_eq (hd : 0 < d) (low : (m : ℚ) - 1 / 2 ≤ n / d) (high : (n / d : ℚ) ≤ m + 1 / 2)
    (tie : m % 2 = 1 → (m : ℚ) - 1 / 2 ≠ n / d ∧ (n / d : ℚ) ≠ m + 1 / 2) : divNearest n d = m := by
  have positive : (0 : ℚ) < d := by exact_mod_cast hd
  rw [le_div_iff₀ positive] at low
  rw [div_le_iff₀ positive] at high
  refine divNearest_eq_of_le hd ?_ ?_ fun odd => ⟨fun he => (tie odd).1 ?_, fun he => (tie odd).2 ?_⟩
  · have : (2 * (d * m) : ℚ) ≤ 2 * n + d := by linarith
    exact_mod_cast this
  · have : (2 * n : ℚ) ≤ 2 * (d * m) + d := by linarith
    exact_mod_cast this
  · have he : (2 * (d * m) : ℚ) = 2 * n + d := by exact_mod_cast he
    rw [eq_div_iff positive.ne']
    linarith
  · have he : (2 * n : ℚ) = 2 * (d * m) + d := by exact_mod_cast he
    rw [div_eq_iff positive.ne']
    linarith

/-- Whether `m * 2 ^ s` is a number other than zero, whose significand is as large as it can be. -/
structure Fits (m : Nat) (s : Int) : Prop where
  pos : 0 < m
  lt : m < 2 ^ 53
  least : -1074 ≤ s
  most : s ≤ 971
  full : s = -1074 ∨ 2 ^ 52 ≤ m

/-- How far the interval of `m * 2 ^ s` reaches down, in units of `2 ^ s`. -/
def reach (m : Nat) (s : Int) : ℚ := if m = 2 ^ 52 ∧ -1074 < s then 1 / 4 else 1 / 2

theorem reach_le (m : Nat) (s : Int) : reach m s ≤ 1 / 2 := by
  unfold reach
  split <;> norm_num

/-- Whether `r` lies in the interval of `m * 2 ^ s`. -/
structure RoundsTo (r : ℚ) (m : Nat) (s : Int) : Prop where
  low : m - reach m s ≤ r / 2 ^ s
  high : r / 2 ^ s ≤ m + 1 / 2
  inside : m % 2 = 1 → m - reach m s < r / 2 ^ s ∧ r / 2 ^ s < m + 1 / 2

/-- What rounds to a finite number other than zero is neither too small nor too large for one. -/
theorem RoundsTo.bounds (h : RoundsTo r m s) (fits : Fits m s) :
    (2 : ℚ) ^ (-1075 : Int) ≤ r ∧ r < 2 ^ (1024 : Int) := by
  have unit : (0 : ℚ) < 2 ^ s := zpow_pos two_pos s
  have reach := reach_le m s
  have low := (le_div_iff₀ unit).1 h.low
  have high := (div_le_iff₀ unit).1 h.high
  constructor
  · calc (2 : ℚ) ^ (-1075 : Int) = 2 ^ (-1 : Int) * 2 ^ (-1074 : Int) :=
          zpow_add₀ two_ne_zero (-1) (-1074)
      _ = 1 / 2 * 2 ^ (-1074 : Int) := by rw [zpow_neg_one, one_div]
      _ ≤ 1 / 2 * 2 ^ s := by
        gcongr
        · exact one_le_two
        · exact fits.least
      _ ≤ (m - Binary64.reach m s) * 2 ^ s := by
        have : (1 : ℚ) ≤ m := by exact_mod_cast fits.pos
        gcongr
        linarith
      _ ≤ r := low
  · calc r ≤ (m + 1 / 2) * 2 ^ s := high
      _ < 2 ^ 53 * 2 ^ s := by
        have : (m : ℚ) + 1 ≤ 2 ^ 53 := by exact_mod_cast fits.lt
        gcongr
        linarith
      _ ≤ 2 ^ 53 * 2 ^ (971 : Int) := by
        gcongr
        · exact one_le_two
        · exact fits.most
      _ = 2 ^ (1024 : Int) := by
        rw [← zpow_natCast]
        exact (zpow_add₀ two_ne_zero 53 971).symm

/-- What lies in the interval of a number is counted in the unit of the number, unless it is just
below a power of two. -/
theorem unit_of_roundsTo (fits : Fits m s) (h : RoundsTo r m s) (least : -1074 ≤ e)
    (below : r / 2 ^ e < 2 ^ 53) (full : e = -1074 ∨ (2 : ℚ) ^ 52 ≤ r / 2 ^ e) :
    e = s ∨ e + 1 = s ∧ m = 2 ^ 52 := by
  have reach := reach_le m s
  have low := h.low
  have high := h.high
  have scale : r / 2 ^ e = r / 2 ^ s * 2 ^ (s - e) := by
    rw [zpow_sub₀ two_ne_zero, div_mul_div_cancel₀ (zpow_ne_zero s two_ne_zero)]
  rcases lt_trichotomy e s with he | he | he
  · right
    have hm : 2 ^ 52 ≤ m := fits.full.resolve_left (by omega)
    have hm' : (2 : ℚ) ^ 52 ≤ m := by exact_mod_cast hm
    have next : e + 1 = s := by
      by_contra hne
      have four : (4 : ℚ) ≤ 2 ^ (s - e) := by
        calc (4 : ℚ) = 2 ^ (2 : Int) := by norm_num
          _ ≤ 2 ^ (s - e) := zpow_le_zpow_right₀ one_le_two (by omega)
      have : r / 2 ^ s * 4 ≤ r / 2 ^ s * 2 ^ (s - e) :=
        mul_le_mul_of_nonneg_left four (by linarith)
      linarith
    refine ⟨next, le_antisymm ?_ hm⟩
    rw [scale, show s - e = 1 by omega, zpow_one] at below
    have : (m : ℚ) < 2 ^ 52 + 1 := by linarith
    exact Nat.lt_succ_iff.1 (by exact_mod_cast this)
  · exact .inl he
  · exfalso
    have hm : (m : ℚ) + 1 ≤ 2 ^ 53 := by exact_mod_cast fits.lt
    have half : (2 : ℚ) ^ (s - e) ≤ 1 / 2 := by
      calc (2 : ℚ) ^ (s - e) ≤ 2 ^ (-1 : Int) := zpow_le_zpow_right₀ one_le_two (by omega)
        _ = 1 / 2 := by norm_num
    have positive : (0 : ℚ) ≤ r / 2 ^ s := by
      have : (1 : ℚ) ≤ m := by exact_mod_cast fits.pos
      linarith
    have : r / 2 ^ s * 2 ^ (s - e) ≤ r / 2 ^ s * (1 / 2) := mul_le_mul_of_nonneg_left half positive
    have large := full.resolve_left (by have := fits.least; omega)
    rw [scale] at large
    linarith

/-- What a fraction in the interval of a number is rounded to, in either unit. -/
theorem magnitude_eq (hd : 0 < den) (h : RoundsTo (num / den) m s) (least : -1074 ≤ e)
    (below : (num / den : ℚ) / 2 ^ e < 2 ^ 53) (unit : e = s ∨ e + 1 = s ∧ m = 2 ^ 52) :
    (e + 1074).toNat * Nat.pow 2 52 + divNearest (inUnits num den e).1 (inUnits num den e).2 =
      (s + 1074).toNat * Nat.pow 2 52 + m := by
  obtain ⟨positive, units⟩ := inUnits_eq num hd e
  rcases unit with rfl | ⟨rfl, rfl⟩
  · have reach := reach_le m e
    rw [divNearest_eq (m := m) positive]
    · rw [units]
      linarith [h.low]
    · rw [units]
      exact h.high
    · rw [units]
      intro odd
      obtain ⟨low, high⟩ := h.inside odd
      exact ⟨by linarith, high.ne⟩
  · -- just below a power of two the significand is rounded up to `2 ^ 53`, which carries
    have low := h.low
    have gap : reach (2 ^ 52) (e + 1) = 1 / 4 := if_pos ⟨rfl, by omega⟩
    rw [gap, zpow_add_one₀ two_ne_zero, div_mul_eq_div_div, ← units] at low
    rw [← units] at below
    norm_num at low below
    rw [divNearest_eq (m := 2 ^ 53) positive]
    · rw [Nat.pow_eq]
      omega
    · norm_num
      linarith
    · norm_num
      linarith
    · norm_num

/-- A fraction in the interval of a number rounds to the number. -/
theorem ofRatio_eq (hd : den ≠ 0) (fits : Fits m s) (h : RoundsTo (num / den) m s)
    (negative : Bool) :
    ofRatio negative num den = ofMagnitude negative ((s + 1074).toNat * Nat.pow 2 52 + m) := by
  have hn : num ≠ 0 := by
    rintro rfl
    have low := (h.bounds fits).1
    rw [Nat.cast_zero, zero_div] at low
    exact absurd low (zpow_pos two_pos _).not_ge
  obtain ⟨least, below, full⟩ := unitExponent_spec hn hd
  have unit := unit_of_roundsTo fits h least below full
  have finite : ¬ 2047 * Nat.pow 2 52 ≤ (s + 1074).toNat * Nat.pow 2 52 + m := by
    have := fits.lt
    have := fits.most
    rw [Nat.pow_eq]
    omega
  unfold ofRatio
  rw [if_neg hn]
  dsimp only
  rw [magnitude_eq (Nat.pos_of_ne_zero hd) h least below unit, if_neg finite]

/-! ## Numbers -/

theorem exponentField_lt (x : Binary64) : x.exponentField < 2048 := Nat.mod_lt _ (by decide)

theorem fraction_lt (x : Binary64) : x.fraction < 2 ^ 52 := Nat.mod_lt _ (by decide)

/-- The bits of a number are its sign, its exponent and its fraction. -/
theorem toNat_bits (x : Binary64) : x.bits.toNat =
    x.exponentField * 2 ^ 52 + x.fraction + if x.isNegative then Nat.pow 2 63 else 0 := by
  have size := x.bits.toNat_lt
  have exponent : x.exponentField = x.bits.toNat / 2 ^ 52 % 2 ^ 11 := rfl
  have fraction : x.fraction = x.bits.toNat % 2 ^ 52 := rfl
  have sign : x.isNegative = decide (2 ^ 63 ≤ x.bits.toNat) := rfl
  rw [exponent, fraction, sign]
  simp only [decide_eq_true_eq, Nat.pow_eq]
  split <;> omega

theorem eq_ofMagnitude_fields (x : Binary64) :
    x = ofMagnitude x.isNegative (x.exponentField * 2 ^ 52 + x.fraction) := by
  unfold ofMagnitude
  rw [← toNat_bits, UInt64.ofNat_toNat]

theorem eq_infinity {x : Binary64} (h : x.isInfinite = true) : x = infinity x.isNegative := by
  obtain ⟨exponent, fraction⟩ : x.exponentField = 2047 ∧ x.fraction = 0 := by
    simpa [isInfinite] using h
  conv_lhs => rw [x.eq_ofMagnitude_fields, exponent, fraction]
  rfl

theorem eq_zero {x : Binary64} (h : x.isZero = true) : x = zero x.isNegative := by
  obtain ⟨exponent, fraction⟩ : x.exponentField = 0 ∧ x.fraction = 0 := by simpa [isZero] using h
  conv_lhs => rw [x.eq_ofMagnitude_fields, exponent, fraction]
  rfl

/-- A finite number is made of its sign, its significand and its scale. -/
theorem eq_ofMagnitude (x : Binary64) :
    x = ofMagnitude x.isNegative ((x.scale + 1074).toNat * Nat.pow 2 52 + x.significand) := by
  refine x.eq_ofMagnitude_fields.trans (congrArg _ ?_)
  unfold scale significand
  rw [Nat.pow_eq]
  split <;> omega

theorem fits_of_isFinite {x : Binary64} (h : x.isFinite = true) (hz : x.isZero = false) :
    Fits x.significand x.scale := by
  have fraction := x.fraction_lt
  have exponent := x.exponentField_lt
  have finite : x.exponentField ≠ 2047 := by simpa [isFinite] using h
  unfold significand scale
  rw [Nat.pow_eq]
  split
  · next he =>
    have nonzero : x.fraction ≠ 0 := by simpa [isZero, he] using hz
    exact ⟨by omega, by omega, by omega, by omega, .inl rfl⟩
  · exact ⟨by omega, by omega, by omega, by omega, .inr (by omega)⟩

end Bxml.Binary64
