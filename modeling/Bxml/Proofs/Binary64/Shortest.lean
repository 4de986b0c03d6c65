import Bxml.Binary64.Shortest
import Bxml.Proofs.Binary64.Rounding
import Mathlib.Data.List.TakeWhile
import Mathlib.Data.Nat.Cast.Order.Field
import Mathlib.Tactic.Ring

/-!
# The shortest digits stand for the number

Seventeen digits are enough to find a decimal in the interval of a number, because the interval is
wider than a step of that grid.  So the search for the shortest one succeeds, and what it finds
rounds to the number: `roundsTo_shortest`.

`Between` is membership in the interval, with or without its ends, in the units that the search
counts in.  `step_lt` says that the interval is wider than a step of the grid, so that
`isSome_gridPoint?` and `exists_found` find a point; that a point found rounds to the number is
`Between.roundsTo`, by the lemmas of `Binary64/Rounding.lean`.
-/

namespace Bxml.Binary64

variable {low center high den a c k num : Nat} {s e : Int} {closed : Bool} {rule : TieRule}
  {x : Binary64}

/-! ## Decimal grids -/

theorem ten_zpow_mul (s : Int) : (10 : ℚ) ^ s * 10 ^ (-s).toNat = 10 ^ s.toNat := by
  rw [← zpow_natCast, ← zpow_natCast, ← zpow_add₀ (by norm_num)]
  congr 1
  omega

/-- A point of the decimal grid, and a fraction, in the units in which they are compared. -/
theorem grid_eq (c den : Nat) (s : Int) :
    (c : ℚ) * 10 ^ s * den * (Nat.pow 10 (-s).toNat : Nat) = (c * (den * Nat.pow 10 s.toNat) : Nat) := by
  simp only [Nat.pow_eq]
  push_cast
  rw [← ten_zpow_mul s]
  ring

theorem scaled_le_iff (hd : 0 < den) :
    a * Nat.pow 10 (-s).toNat ≤ c * (den * Nat.pow 10 s.toNat) ↔ (a / den : ℚ) ≤ c * 10 ^ s := by
  have up : (0 : ℚ) < (Nat.pow 10 (-s).toNat : Nat) := by exact_mod_cast Nat.pow_pos (by decide)
  rw [div_le_iff₀ (by exact_mod_cast hd), ← mul_le_mul_iff_left₀ up, grid_eq]
  exact_mod_cast Iff.rfl

theorem le_scaled_iff (hd : 0 < den) :
    c * (den * Nat.pow 10 s.toNat) ≤ a * Nat.pow 10 (-s).toNat ↔ c * 10 ^ s ≤ (a / den : ℚ) := by
  have up : (0 : ℚ) < (Nat.pow 10 (-s).toNat : Nat) := by exact_mod_cast Nat.pow_pos (by decide)
  rw [le_div_iff₀ (by exact_mod_cast hd), ← mul_le_mul_iff_left₀ up, grid_eq]
  exact_mod_cast Iff.rfl

/-- Whether `p` lies between `low` and `high`, which may be meant to belong to the interval. -/
structure Between (closed : Bool) (low high p : ℚ) : Prop where
  low_le : low ≤ p
  le_high : p ≤ high
  inside : closed = false → low < p ∧ p < high

theorem between_iff (hd : 0 < den) :
    (if closed then
      decide (low * Nat.pow 10 (-s).toNat ≤ c * (den * Nat.pow 10 s.toNat)) &&
        decide (c * (den * Nat.pow 10 s.toNat) ≤ high * Nat.pow 10 (-s).toNat)
    else
      decide (low * Nat.pow 10 (-s).toNat < c * (den * Nat.pow 10 s.toNat)) &&
        decide (c * (den * Nat.pow 10 s.toNat) < high * Nat.pow 10 (-s).toNat)) = true ↔
    Between closed (low / den) (high / den) (c * 10 ^ s) := by
  cases closed with
  | true =>
    simp only [if_true, Bool.and_eq_true, decide_eq_true_eq, scaled_le_iff hd, le_scaled_iff hd]
    exact ⟨fun h => ⟨h.1, h.2, nofun⟩, fun h => ⟨h.low_le, h.le_high⟩⟩
  | false =>
    simp only [Bool.false_eq_true, if_false, Bool.and_eq_true, decide_eq_true_eq, ← not_le,
      scaled_le_iff hd, le_scaled_iff hd]
    simp only [not_le]
    exact ⟨fun h => ⟨h.1.le, h.2.le, fun _ => h⟩, fun h => h.inside rfl⟩

theorem nearer_cases (rule : TieRule) (c below above : Nat) :
    rule.nearer c below above = c ∨ rule.nearer c below above = c + 1 := by
  unfold TieRule.nearer
  split
  · exact .inl rfl
  · split
    · exact .inr rfl
    · split
      · exact .inr rfl
      · split
        · exact .inl rfl
        · exact .inr rfl

/-- The point of the grid that stands for a number lies in its interval. -/
theorem between_of_gridPoint? (hd : 0 < den)
    (h : gridPoint? rule low center high den closed e k = some c) :
    Between closed (low / den) (high / den) (c * 10 ^ (e - k)) := by
  unfold gridPoint? at h
  extract_lets s up step inside c₀ below above at h
  have between {c : Nat} (hc : inside c = true) :
      Between closed (low / den) (high / den) (c * 10 ^ (e - k)) := (between_iff hd).1 hc
  split at h
  · next both =>
    obtain ⟨hb, ha⟩ := Bool.and_eq_true_iff.1 both
    rw [← Option.some.inj h]
    rcases nearer_cases rule c₀ (center * up - c₀ * step) ((c₀ + 1) * step - center * up) with hc | hc
    · rw [hc]
      exact between hb
    · rw [hc]
      exact between ha
  · split at h
    · next hb =>
      rw [← Option.some.inj h]
      exact between hb
    · split at h
      · next ha =>
        rw [← Option.some.inj h]
        exact between ha
      · cases h

/-- A grid whose step is smaller than the interval has a point for the number. -/
theorem isSome_gridPoint? (hd : 0 < den) (hl : low < center) (hh : center < high)
    (step : (10 : ℚ) ^ (e - k) < high / den - low / den) :
    (gridPoint? rule low center high den closed e k).isSome = true := by
  have den_pos : (0 : ℚ) < den := by exact_mod_cast hd
  unfold gridPoint?
  extract_lets s up step' inside c below above
  have grid_pos : 0 < step' := Nat.mul_pos hd (Nat.pow_pos (by decide))
  have low_le : c * 10 ^ s ≤ (center / den : ℚ) := (le_scaled_iff hd).1 (Nat.div_mul_le_self _ _)
  have lt_next : (center / den : ℚ) < (c + 1 : Nat) * 10 ^ s := by
    rw [← not_le, ← le_scaled_iff hd, not_le]
    exact (Nat.lt_mul_div_succ _ grid_pos).trans_eq (mul_comm _ _)
  have low_lt : (low / den : ℚ) < center / den := by gcongr
  have lt_high : (center / den : ℚ) < high / den := by gcongr
  have found : below = true ∨ above = true := by
    by_cases hc : (low / den : ℚ) < c * 10 ^ s
    · exact .inl ((between_iff hd).2
        ⟨hc.le, (low_le.trans_lt lt_high).le, fun _ => ⟨hc, low_le.trans_lt lt_high⟩⟩)
    · have next : ((c + 1 : Nat) * 10 ^ s : ℚ) < high / den := by
        push_cast
        linarith
      have above_low : (low / den : ℚ) < (c + 1 : Nat) * 10 ^ s := low_lt.trans lt_next
      exact .inr ((between_iff hd).2 ⟨above_low.le, next.le, fun _ => ⟨above_low, next⟩⟩)
  cases hb : below <;> cases ha : above <;> simp_all

/-! ## Decimal exponents -/

theorem pow_decimalLength_le (hn : num ≠ 0) : 10 ^ (decimalLength num - 1) ≤ num := by
  unfold decimalLength
  rcases Nat.eq_zero_or_pos ((Nat.toDigits 10 num).length - 1) with hl | hl
  · rw [hl, pow_zero]
    exact Nat.pos_of_ne_zero hn
  · rw [← not_lt, ← Nat.length_toDigits_le_iff (by decide) hl]
    omega

theorem lt_pow_decimalLength (num : Nat) : num < 10 ^ decimalLength num :=
  (Nat.length_toDigits_le_iff (by decide) Nat.length_toDigits_pos).1 le_rfl

/-- The exponent of a fraction is no larger than its first digit allows. -/
theorem le_of_decimalExponent (hn : num ≠ 0) (hd : 0 < den) :
    (10 : ℚ) ^ (decimalExponent num den - 1) ≤ num / den := by
  have den_pos : (0 : ℚ) < den := by exact_mod_cast hd
  unfold decimalExponent
  split
  · next h =>
    have quotient : num / den ≠ 0 := (Nat.div_pos h hd).ne'
    have length : 1 ≤ decimalLength (num / den) := Nat.length_toDigits_pos
    calc (10 : ℚ) ^ ((decimalLength (num / den) : Int) - 1)
        = (10 ^ (decimalLength (num / den) - 1) : Nat) := by
          rw [← Nat.cast_pred length, zpow_natCast]
          push_cast
          rfl
      _ ≤ (num / den : Nat) := by exact_mod_cast pow_decimalLength_le quotient
      _ ≤ num / den := Nat.cast_div_le
  · next h =>
    have num_pos : (0 : ℚ) < num := by exact_mod_cast Nat.pos_of_ne_zero hn
    have length : 1 ≤ decimalLength (den / num) := Nat.length_toDigits_pos
    have large : (den : ℚ) < 10 ^ decimalLength (den / num) * num := by
      exact_mod_cast (Nat.div_lt_iff_lt_mul (Nat.pos_of_ne_zero hn)).1 (lt_pow_decimalLength _)
    generalize decimalLength (den / num) = l at length large ⊢
    dsimp only
    split
    · next hp =>
      rw [Nat.pow_eq, show (-(1 - (l : Int))).toNat = l - 1 by omega] at hp
      rw [add_sub_cancel_right, hp, show (1 - (l : Int)) = -(l - 1 : Nat) by omega, zpow_neg,
        zpow_natCast]
      push_cast
      rw [div_mul_cancel_left₀ num_pos.ne']
    · rw [le_div_iff₀ den_pos, show (1 - (l : Int) - 1) = -l by omega, zpow_neg, zpow_natCast,
        inv_mul_le_iff₀ (by positivity)]
      exact large.le

/-! ## The interval of a number -/

/-- A number of units, as the numerator and denominator that the search is given. -/
theorem units_eq (n : Nat) (q : Int) :
    ((n * Nat.pow 2 q.toNat : Nat) / (Nat.pow 2 (-q).toNat : Nat) : ℚ) = n * 2 ^ q := by
  have two : (2 : ℚ) ≠ 0 := two_ne_zero
  rw [Nat.pow_eq, Nat.pow_eq]
  push_cast
  rw [mul_div_assoc, ← zpow_natCast, ← zpow_natCast, ← zpow_sub₀ two]
  congr 2
  omega

theorem quarters_lt (h : 0 < x.significand) : x.quarters.1 < 4 * x.significand := by
  unfold quarters
  dsimp only
  split <;> omega

/-- The lower end of the interval of a number, in quarters of its unit. -/
theorem low_quarter (h : x.isFinite = true) (hz : x.isZero = false) :
    (x.quarters.1 : ℚ) = 4 * (x.significand - reach x.significand x.scale) := by
  have fits := fits_of_isFinite h hz
  have fraction := x.fraction_lt
  have power : x.fraction = 0 ∧ 1 < x.exponentField ↔
      x.significand = 2 ^ 52 ∧ -1074 < x.scale := by
    unfold significand scale
    rw [Nat.pow_eq]
    split <;> omega
  have pos := fits.pos
  unfold quarters reach
  simp only [power]
  split
  · rw [Nat.cast_sub (by omega)]
    push_cast
    ring
  · rw [Nat.cast_sub (by omega)]
    push_cast
    ring

/-- The interval of a number is wider than a step of the grid with seventeen digits. -/
theorem step_lt {m : Nat} (fits : Fits m s) (h : (10 : ℚ) ^ (e - 1) ≤ m * 2 ^ s) :
    (10 : ℚ) ^ (e - 17) < (m + 1 / 2) * 2 ^ s - (m - reach m s) * 2 ^ s := by
  have unit : (0 : ℚ) < 2 ^ s := zpow_pos two_pos s
  have small : (m : ℚ) / 10 ^ 16 < 1 / 2 + reach m s := by
    unfold reach
    split
    · next hm =>
      rw [hm.1]
      norm_num
    · have : (m : ℚ) < 2 ^ 53 := by exact_mod_cast fits.lt
      rw [div_lt_iff₀ (by norm_num)]
      norm_num at this ⊢
      linarith
  calc (10 : ℚ) ^ (e - 17) = 10 ^ (e - 1) / 10 ^ 16 := by
        rw [show e - 17 = e - 1 - 16 by ring, zpow_sub₀ (by norm_num)]
        norm_num
    _ ≤ m * 2 ^ s / 10 ^ 16 := by gcongr
    _ = m / 10 ^ 16 * 2 ^ s := by ring
    _ < (1 / 2 + reach m s) * 2 ^ s := by gcongr
    _ = (m + 1 / 2) * 2 ^ s - (m - reach m s) * 2 ^ s := by ring

theorem four_mul_quarter (y : ℚ) (s : Int) : 4 * y * 2 ^ (s - 2) = y * 2 ^ s := by
  rw [zpow_sub₀ two_ne_zero]
  ring

theorem Between.roundsTo {m : Nat} {p : ℚ} (h : Between (m % 2 == 0)
    (4 * (m - reach m s) * 2 ^ (s - 2)) (4 * (m + 1 / 2) * 2 ^ (s - 2)) p) : RoundsTo p m s := by
  have unit : (0 : ℚ) < 2 ^ s := zpow_pos two_pos s
  rw [four_mul_quarter, four_mul_quarter] at h
  refine ⟨(le_div_iff₀ unit).2 h.low_le, (div_le_iff₀ unit).2 h.le_high, fun odd => ?_⟩
  obtain ⟨low, high⟩ := h.inside (by simp [odd])
  exact ⟨(lt_div_iff₀ unit).2 low, (div_lt_iff₀ unit).2 high⟩

/-- The search for the shortest digits succeeds with a decimal that rounds to the number. -/
theorem exists_found (rule : TieRule) (h : x.isFinite = true) (hz : x.isZero = false) :
    ∃ (c k : Nat) (e : Int), x.shortest rule =
        ⟨((Nat.toDigits 10 c).reverse.dropWhile (· == '0')).reverse,
          e + ((Nat.toDigits 10 c).length - k : Int)⟩ ∧
      RoundsTo (c * 10 ^ (e - k)) x.significand x.scale := by
  have fits := fits_of_isFinite h hz
  have quarters : x.quarters = (x.quarters.1, 4 * x.significand, 4 * x.significand + 2) := rfl
  unfold shortest
  rw [quarters]
  dsimp -zeta only
  extract_lets q times den e closed found
  have pos := fits.pos
  have hd : 0 < den := Nat.pow_pos (by decide)
  have times_pos : 0 < times := Nat.pow_pos (by decide)
  have low : ((x.quarters.1 * times : Nat) / den : ℚ) =
      4 * (x.significand - reach x.significand x.scale) * 2 ^ (x.scale - 2) := by
    rw [units_eq, low_quarter h hz]
  have center : ((4 * x.significand * times : Nat) / den : ℚ) = x.significand * 2 ^ x.scale := by
    rw [units_eq, ← four_mul_quarter (x.significand : ℚ) x.scale]
    push_cast
    rfl
  have high : (((4 * x.significand + 2) * times : Nat) / den : ℚ) =
      4 * (x.significand + 1 / 2) * 2 ^ (x.scale - 2) := by
    rw [units_eq]
    push_cast
    ring
  have step : (10 : ℚ) ^ (e - 17) <
      ((4 * x.significand + 2) * times : Nat) / den - (x.quarters.1 * times : Nat) / den := by
    rw [low, high, four_mul_quarter, four_mul_quarter]
    refine step_lt fits ?_
    rw [← center]
    exact le_of_decimalExponent (Nat.mul_pos (by omega) times_pos).ne' hd
  have some : found.isSome = true := by
    refine List.findSome?_isSome_iff.2 ⟨16, List.mem_range.2 (by decide), ?_⟩
    rw [Option.isSome_map]
    refine isSome_gridPoint? hd ?_ ?_ step
    · exact Nat.mul_lt_mul_of_pos_right (quarters_lt fits.pos) times_pos
    · exact Nat.mul_lt_mul_of_pos_right (by omega) times_pos
  obtain ⟨⟨c, k⟩, hf⟩ := Option.isSome_iff_exists.1 some
  obtain ⟨i, -, hi⟩ := List.exists_of_findSome?_eq_some hf
  obtain ⟨c, hc, hck⟩ := Option.map_eq_some_iff.1 hi
  cases hck
  refine ⟨c, i + 1, e, ?_, ?_⟩
  · rw [hf]
  · have between := between_of_gridPoint? hd hc
    rw [low, high] at between
    exact between.roundsTo

/-! ## Digits -/

/-- The digits that stand for a number: their value. -/
def Digits.value (d : Digits) : ℚ :=
  Nat.ofDigitChars 10 d.digits 0 * 10 ^ (d.exponent - d.digits.length)

/-- Zeros at the end of a number are a matter of its exponent. -/
theorem ofDigitChars_dropZeros (l : List Char) :
    ∃ n, l.length = (l.reverse.dropWhile (· == '0')).reverse.length + n ∧
      Nat.ofDigitChars 10 l 0 =
        10 ^ n * Nat.ofDigitChars 10 (l.reverse.dropWhile (· == '0')).reverse 0 := by
  have zeros : (l.reverse.takeWhile (· == '0')).reverse =
      List.replicate (l.reverse.takeWhile (· == '0')).length '0' := by
    refine List.eq_replicate_iff.2 ⟨List.length_reverse, fun c hc => ?_⟩
    simpa using List.mem_takeWhile_imp (List.mem_reverse.1 hc)
  have split : l = (l.reverse.dropWhile (· == '0')).reverse ++
      List.replicate (l.reverse.takeWhile (· == '0')).length '0' := by
    rw [← zeros, ← List.reverse_append, List.takeWhile_append_dropWhile, List.reverse_reverse]
  refine ⟨(l.reverse.takeWhile (· == '0')).length, ?_, ?_⟩
  · conv_lhs => rw [split]
    rw [List.length_append, List.length_replicate]
  · conv_lhs => rw [split]
    rw [Nat.ofDigitChars_append, Nat.ofDigitChars_replicate_zero]

/-- What the digits of a number stand for rounds to the number. -/
theorem roundsTo_shortest (rule : TieRule) (h : x.isFinite = true) (hz : x.isZero = false) :
    (∀ c ∈ (x.shortest rule).digits, c.isDigit = true) ∧
      RoundsTo (x.shortest rule).value x.significand x.scale := by
  obtain ⟨c, k, e, found, rounds⟩ := exists_found rule h hz
  obtain ⟨n, length, digits⟩ := ofDigitChars_dropZeros (Nat.toDigits 10 c)
  rw [found]
  refine ⟨fun d hd => ?_, ?_⟩
  · refine Nat.isDigit_of_mem_toDigits (b := 10) (n := c) (by decide) (by decide) ?_
    exact List.mem_reverse.1 (List.dropWhile_subset _ (List.mem_reverse.1 hd))
  · rw [Nat.ofDigitChars_ten_toDigits] at digits
    unfold Digits.value
    dsimp only
    generalize ((Nat.toDigits 10 c).reverse.dropWhile (· == '0')).reverse = l at length digits ⊢
    have value : (Nat.ofDigitChars 10 l 0 * 10 ^ (e + ((Nat.toDigits 10 c).length - k) - l.length) : ℚ) =
        c * 10 ^ (e - k) := by
      have exponent : e + ((Nat.toDigits 10 c).length - k) - l.length = n + (e - k) := by omega
      rw [exponent, zpow_add₀ (by norm_num), zpow_natCast, ← mul_assoc, mul_comm (Nat.cast _)]
      exact_mod_cast congrArg (fun m : Nat => (m * 10 ^ (e - k) : ℚ)) digits.symm
    rw [value]
    exact rounds

end Bxml.Binary64
