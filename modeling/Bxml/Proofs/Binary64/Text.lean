import Bxml.Binary64.Text
import Bxml.Proofs.Binary64.Shortest
import Bxml.Proofs.Text.Visible

/-!
# Floating point numbers are read from their text

The plain form of a number is read digit by digit into a decimal that has the value of its shortest
digits, and that rounds to the number: `ofText?_toText`.

`positional_cases` takes the plain form apart, `readDecimal?_positional` reads it back, and
`round_eq` rounds the decimal.  The reader gives up on exponents beyond some size; `top_bounds` says
that the number is zero or infinite there.  A NaN is the one number whose text is no number
(`ofText?_toText_of_isNaN`).
-/

namespace Bxml.Binary64

open Text

variable {l whole frac : List Char} {c : Char} {d : Digits} {m : Nat} {s : Int} {x : Binary64}
  {negative : Bool}

/-! ## Writing -/

theorem visible_positional (h : Visible d.digits) : Visible d.positional := by
  have zeros (n : Nat) : Visible (List.replicate n '0') := fun c hc =>
    List.eq_of_mem_replicate hc ▸ by decide
  unfold Digits.positional
  split
  · exact (.cons (by decide) (.cons (by decide) ((zeros _).append h)))
  · split
    · exact h.append (zeros _)
    · exact (h.mono (List.take_subset _ _)).append
        (.cons (by decide) (h.mono (List.drop_subset _ _)))

theorem visible_shortest (r : TieRule) (x : Binary64) : Visible (x.shortest r).digits := by
  unfold shortest
  dsimp only
  split
  · refine (Visible.mono ?_ (List.dropWhile_subset _)).reverse
    exact (visible_toDigits 10 _).reverse
  · exact .nil

theorem visible_toText (x : Binary64) : Visible x.toText.toList := by
  unfold toText
  split
  · decide
  · rw [String.toList_ofList]
    refine .append (.ite (by decide) .nil) (.ite (by decide) (.ite (by decide) ?_))
    exact visible_positional (visible_shortest _ x)

/-! ## Decimals -/

/-- The number that a decimal stands for. -/
def Decimal.value (d : Decimal) : ℚ := Nat.ofDigitChars 10 d.digits 0 * 10 ^ d.exponent

theorem readDecimal?_whole (hw : ∀ c ∈ whole, c.isDigit = true) (hn : whole ≠ []) :
    readDecimal? whole = some ⟨whole, 0⟩ := by
  unfold readDecimal?
  rw [List.takeWhile_eq_self_iff.2 hw, List.dropWhile_eq_nil_iff.2 hw]
  simp [hn, readExponent?]

theorem readDecimal?_point (hw : ∀ c ∈ whole, c.isDigit = true) (hn : whole ≠ [])
    (hf : ∀ c ∈ frac, c.isDigit = true) :
    readDecimal? (whole ++ '.' :: frac) = some ⟨whole ++ frac, -frac.length⟩ := by
  have point : ('.' : Char).isDigit ≠ true := by decide
  unfold readDecimal?
  rw [List.takeWhile_append_of_pos hw, List.takeWhile_cons_of_neg point,
    List.dropWhile_append_of_pos hw, List.dropWhile_cons_of_neg point, List.append_nil]
  simp [hn, List.takeWhile_eq_self_iff.2 hf, List.dropWhile_eq_nil_iff.2 hf, readExponent?]

/-- Digits placed around the decimal point are some before it and perhaps some after it, whose value
is that of the digits. -/
theorem positional_cases (h : ∀ c ∈ d.digits, c.isDigit = true) : ∃ whole frac : List Char,
    whole ≠ [] ∧ (∀ c ∈ whole, c.isDigit = true) ∧ (∀ c ∈ frac, c.isDigit = true) ∧
      (d.positional = whole ∧ frac = [] ∨ d.positional = whole ++ '.' :: frac) ∧
      (Decimal.mk (whole ++ frac) (-frac.length)).value = d.value := by
  have zeros (n : Nat) : ∀ c ∈ List.replicate n '0', c.isDigit = true := fun c hc =>
    List.eq_of_mem_replicate hc ▸ rfl
  unfold Digits.positional Digits.value Decimal.value
  dsimp only
  split
  · next hx =>
    refine ⟨['0'], List.replicate (-d.exponent).toNat '0' ++ d.digits, by simp, zeros 1,
      List.forall_mem_append.2 ⟨zeros _, h⟩, .inr rfl, ?_⟩
    rw [Nat.ofDigitChars_append, show ['0'] = List.replicate 1 '0' from rfl,
      Nat.ofDigitChars_replicate_zero, Nat.ofDigitChars_append, Nat.ofDigitChars_replicate_zero,
      List.length_append, List.length_replicate]
    simp only [Nat.mul_zero]
    congr 2
    omega
  · next hx =>
    split
    · next hl =>
      refine ⟨d.digits ++ List.replicate (d.exponent.toNat - d.digits.length) '0', [],
        List.ne_nil_of_length_pos ?_, List.forall_mem_append.2 ⟨h, zeros _⟩,
        List.forall_mem_nil _, .inl ⟨rfl, rfl⟩, ?_⟩
      · rw [List.length_append, List.length_replicate]
        omega
      · rw [List.append_nil, Nat.ofDigitChars_append, Nat.ofDigitChars_replicate_zero,
          show d.exponent - d.digits.length = (d.exponent.toNat - d.digits.length : Nat) by omega,
          zpow_natCast]
        push_cast
        simp [mul_comm]
    · next hl =>
      refine ⟨d.digits.take d.exponent.toNat, d.digits.drop d.exponent.toNat,
        List.ne_nil_of_length_pos ?_, fun c hc => h c (List.mem_of_mem_take hc),
        fun c hc => h c (List.mem_of_mem_drop hc), .inr rfl, ?_⟩
      · rw [List.length_take]
        omega
      · rw [List.take_append_drop, List.length_drop]
        congr 2
        omega

/-- The digits of a number, placed around the decimal point, are read as a decimal of their value. -/
theorem readDecimal?_positional (h : ∀ c ∈ d.digits, c.isDigit = true) :
    (∃ c l, d.positional = c :: l ∧ c.isDigit = true) ∧
      ∃ e, readDecimal? d.positional = some e ∧ (∀ c ∈ e.digits, c.isDigit = true) ∧
        e.value = d.value := by
  obtain ⟨whole, frac, ne, hw, hf, shape, value⟩ := positional_cases h
  obtain ⟨c, l, rfl⟩ := List.exists_cons_of_ne_nil ne
  have first := hw c List.mem_cons_self
  have digits := List.forall_mem_append.2 ⟨hw, hf⟩
  obtain ⟨hp, rfl⟩ | hp := shape
  · rw [hp, readDecimal?_whole hw ne]
    rw [List.append_nil] at value digits
    exact ⟨⟨c, l, rfl, first⟩, _, rfl, digits, value⟩
  · rw [hp, readDecimal?_point hw ne hf]
    exact ⟨⟨c, _, rfl, first⟩, _, rfl, digits, value⟩

/-! ## Rounding decimals -/

theorem toNat_of_isDigit (h : c.isDigit = true) : 48 ≤ c.toNat ∧ c.toNat ≤ 57 := by
  change (decide (48 ≤ c.val) && decide (c.val ≤ 57)) = true at h
  simp only [Bool.and_eq_true, decide_eq_true_eq, UInt32.le_iff_toNat_le] at h
  exact h

theorem ofDigitChars_cons (c : Char) (l : List Char) : Nat.ofDigitChars 10 (c :: l) 0 =
    10 ^ l.length * (c.toNat - 48) + Nat.ofDigitChars 10 l 0 := by
  rw [Nat.ofDigitChars_cons, Nat.ofDigitChars_eq_ofDigitChars_zero, Nat.mul_zero, Nat.zero_add]
  rfl

theorem ofDigitChars_lt (h : ∀ c ∈ l, c.isDigit = true) :
    Nat.ofDigitChars 10 l 0 < 10 ^ l.length := by
  induction l with
  | nil => decide
  | cons c l ih =>
    rw [List.forall_mem_cons] at h
    have := ih h.2
    have digit : c.toNat - 48 ≤ 9 := by have := toNat_of_isDigit h.1; omega
    have := Nat.mul_le_mul_left (10 ^ l.length) digit
    rw [ofDigitChars_cons, List.length_cons, pow_succ]
    omega

theorem pow_le_ofDigitChars (h : c.isDigit = true) (hc : c ≠ '0') (l : List Char) :
    10 ^ l.length ≤ Nat.ofDigitChars 10 (c :: l) 0 := by
  have digit : 1 ≤ c.toNat - 48 := by
    have := toNat_of_isDigit h
    have : c.toNat ≠ 48 := fun he => hc (by rw [← c.ofNat_toNat, he])
    omega
  have := Nat.mul_le_mul_left (10 ^ l.length) digit
  rw [ofDigitChars_cons]
  omega

theorem ofDigitChars_dropWhile (l : List Char) :
    Nat.ofDigitChars 10 (l.dropWhile (· == '0')) 0 = Nat.ofDigitChars 10 l 0 := by
  induction l with
  | nil => rfl
  | cons c l ih =>
    by_cases hc : c = '0'
    · subst hc
      rw [List.dropWhile_cons_of_pos rfl, ih, ofDigitChars_cons]
      simp
    · rw [List.dropWhile_cons_of_neg (by simpa using hc)]

/-- The rounded value of some digits. -/
theorem ofDecimal_eq {n : Nat} {e : Int} (fits : Fits m s) (rounds : RoundsTo (n * 10 ^ e) m s)
    (negative : Bool) :
    ofDecimal negative n e = ofMagnitude negative ((s + 1074).toNat * Nat.pow 2 52 + m) := by
  unfold ofDecimal
  split
  · next he =>
    refine ofRatio_eq one_ne_zero fits ?_ negative
    obtain ⟨k, rfl⟩ := Int.eq_ofNat_of_zero_le he
    rw [zpow_natCast] at rounds
    rw [Int.toNat_natCast, Nat.pow_eq, Nat.cast_one, div_one]
    exact_mod_cast rounds
  · next he =>
    refine ofRatio_eq (Nat.pow_pos (by decide)).ne' fits ?_ negative
    obtain ⟨k, rfl⟩ : ∃ k : Nat, e = -k := ⟨(-e).toNat, by omega⟩
    rw [zpow_neg, zpow_natCast, ← div_eq_mul_inv] at rounds
    rw [neg_neg, Int.toNat_natCast]
    exact_mod_cast rounds

/-- The place of the first digit of a number lies in a range beyond which all is zero or infinite. -/
theorem top_bounds {n k : Nat} {e : Int} (low : (2 : ℚ) ^ (-1075 : Int) ≤ n * 10 ^ e)
    (high : (n * 10 ^ e : ℚ) < 2 ^ (1024 : Int)) (least : 10 ^ k ≤ n) (most : n < 10 ^ (k + 1)) :
    -330 ≤ e + (k + 1 : Nat) ∧ e + (k + 1 : Nat) ≤ 310 := by
  have ten : (0 : ℚ) < 10 ^ e := zpow_pos (by norm_num) e
  constructor
  · by_contra small
    have tiny : (10 : ℚ) ^ (-331 : Int) ≤ 2 ^ (-1075 : Int) := by
      have : (2 : ℚ) ^ 1075 ≤ 10 ^ 331 := by
        exact_mod_cast (by decide +kernel : 2 ^ 1075 ≤ 10 ^ 331)
      rw [zpow_neg, zpow_neg]
      exact inv_anti₀ (by positivity) this
    have : (n : ℚ) < 10 ^ (k + 1) := by exact_mod_cast most
    have : (n * 10 ^ e : ℚ) < 10 ^ (-331 : Int) := by
      calc (n * 10 ^ e : ℚ) < 10 ^ (k + 1) * 10 ^ e := by gcongr
        _ = 10 ^ ((k + 1 : Nat) + e) := by rw [zpow_add₀ (by norm_num), zpow_natCast]
        _ ≤ 10 ^ (-331 : Int) := zpow_le_zpow_right₀ (by norm_num) (by omega)
    exact absurd (this.trans_le tiny) (not_lt.2 low)
  · by_contra large
    have huge : (2 : ℚ) ^ (1024 : Int) ≤ 10 ^ (310 : Int) := by
      exact_mod_cast (by decide +kernel : 2 ^ 1024 ≤ 10 ^ 310)
    have : (10 : ℚ) ^ k ≤ n := by exact_mod_cast least
    have : (10 : ℚ) ^ (310 : Int) ≤ n * 10 ^ e := by
      calc (10 : ℚ) ^ (310 : Int) ≤ 10 ^ ((k : Int) + e) :=
            zpow_le_zpow_right₀ (by norm_num) (by omega)
        _ = 10 ^ k * 10 ^ e := by rw [zpow_add₀ (by norm_num), zpow_natCast]
        _ ≤ n * 10 ^ e := by gcongr
    exact absurd (huge.trans this) (not_le.2 high)

/-- A decimal in the interval of a number rounds to the number. -/
theorem round_eq {d : Decimal} (h : ∀ c ∈ d.digits, c.isDigit = true) (fits : Fits m s)
    (rounds : RoundsTo d.value m s) (negative : Bool) :
    d.round negative = ofMagnitude negative ((s + 1074).toNat * Nat.pow 2 52 + m) := by
  have digits : ∀ c ∈ d.digits.dropWhile (· == '0'), c.isDigit = true := fun c hc =>
    h c (List.dropWhile_subset _ hc)
  unfold Decimal.value at rounds
  rw [← ofDigitChars_dropWhile] at rounds
  obtain ⟨low, high⟩ := rounds.bounds fits
  unfold Decimal.round
  dsimp only
  cases hd : d.digits.dropWhile (· == '0') with
  | nil =>
    rw [hd, Nat.ofDigitChars_nil, Nat.cast_zero, zero_mul] at low
    exact absurd low (zpow_pos two_pos _).not_ge
  | cons c l =>
    rw [hd] at digits low high rounds
    have first : c ≠ '0' := by
      have := head?_dropWhile_not _ _ c (congrArg List.head? hd)
      simpa using this
    obtain ⟨least, most⟩ := top_bounds low high
      (pow_le_ofDigitChars (digits c List.mem_cons_self) first l) (ofDigitChars_lt digits)
    rw [← List.length_cons (a := c)] at least most
    rw [if_neg (by simpa using least), if_neg (not_lt.2 most)]
    exact ofDecimal_eq fits rounds negative

/-! ## Numbers -/

/-- What starts with a digit is no word. -/
theorem readMagnitude?_digit (h : c.isDigit = true) (negative : Bool) (l : List Char) :
    readMagnitude? negative (c :: l) = (readDecimal? (c :: l)).map (Decimal.round negative) := by
  have visible : VisibleChar c :=
    visibleChar_of_isAlphanum (by rw [Char.isAlphanum, h, Bool.or_true])
  obtain ⟨hi, hn⟩ : c.toLower ≠ 'i' ∧ c.toLower ≠ 'n' :=
    visible.induction (P := fun c => c.isDigit = true → c.toLower ≠ 'i' ∧ c.toLower ≠ 'n')
      (by decide +kernel) h
  unfold readMagnitude?
  simp [hi, hn]

/-- A sign is read before a number. -/
theorem ofText?_sign (negative : Bool) (h : ∀ c, l.head? = some c → c ≠ '-' ∧ c ≠ '+') :
    ofText? ((if negative then ['-'] else []) ++ l) = readMagnitude? negative l := by
  cases negative with
  | true => rfl
  | false =>
    change ofText? l = _
    unfold ofText?
    split
    · exact absurd rfl (h _ rfl).1
    · exact absurd rfl (h _ rfl).2
    · rfl

/-- Every number is read from its text. -/
theorem ofText?_toText (h : x.isNaN = false) : ofText? x.toText.toList = some x := by
  unfold toText
  rw [if_neg (by simp [h])]
  dsimp only
  rw [String.toList_ofList]
  by_cases hi : x.isInfinite = true
  · rw [if_pos hi, ofText?_sign _ (by simp)]
    conv_rhs => rw [eq_infinity hi]
    rfl
  · rw [if_neg hi]
    by_cases hz : x.isZero = true
    · rw [if_pos hz, ofText?_sign _ (by simp)]
      conv_rhs => rw [eq_zero hz]
      rfl
    · have finite : x.isFinite = true := by
        simp [isNaN, isInfinite, isFinite] at h hi ⊢
        exact fun he => hi he (h he)
      rw [Bool.not_eq_true] at hz
      rw [hz, if_neg Bool.false_ne_true]
      obtain ⟨digits, rounds⟩ := roundsTo_shortest .larger finite hz
      obtain ⟨⟨c, l, hp, hc⟩, d, read, digits', value⟩ := readDecimal?_positional digits
      rw [ofText?_sign, hp, readMagnitude?_digit hc, ← hp, read, Option.map_some,
        round_eq digits' (fits_of_isFinite finite hz) (value ▸ rounds), ← eq_ofMagnitude]
      rw [hp]
      rintro _ ⟨⟩
      have := toNat_of_isDigit hc
      exact ⟨by rintro rfl; simp at this, by rintro rfl; simp at this⟩

/-- What is no number is read as no number. -/
theorem ofText?_toText_of_isNaN {x : Binary64} (h : x.isNaN = true) :
    ofText? x.toText.toList = some nan := by
  unfold toText
  rw [if_pos h]
  rfl

end Bxml.Binary64
