import Bxml.Proofs.Binary64.Text

/-!
# Whole numbers as floating point numbers

What is read as a whole number of 64 bits is also read as the floating point number nearest to it,
`ofText?_of_readInt64?`; and the texts of equal floating point numbers are read as the same whole
number, if they are read as one.  What is read as a number at all has no colon.

These facts are for values that are bound to slots of different types (`Settling/Readings.lean`): a
text between two slots is read by both.  `round_whole` is the step from the digits to the nearest
number, and `readInt64?_toText_of_beq` covers the two zeros, which are equal and have different
texts.
-/

namespace Bxml

namespace Binary64

open Text

variable {l : List Char} {n m : Nat} {i : Int} {x y : Binary64} {negative : Bool}

/-! ## Rounding whole numbers -/

/-- A number whose magnitude is at most that of infinity is no NaN. -/
theorem isNaN_ofMagnitude (h : m ≤ 2047 * Nat.pow 2 52) : (ofMagnitude negative m).isNaN = false := by
  have bits : (ofMagnitude negative m).bits.toNat = m + if negative then Nat.pow 2 63 else 0 := by
    unfold ofMagnitude
    rw [UInt64.toNat_ofNat']
    refine Nat.mod_eq_of_lt ?_
    rw [Nat.pow_eq] at h ⊢
    split <;> omega
  unfold isNaN exponentField fraction
  rw [bits, Bool.and_eq_false_imp, beq_iff_eq, bne_eq_false_iff_eq]
  rw [Nat.pow_eq] at h
  simp only [Nat.pow_eq]
  split <;> omega

theorem isNaN_ofRatio (negative : Bool) (num den : Nat) : (ofRatio negative num den).isNaN = false := by
  unfold ofRatio
  dsimp only
  split
  · exact isNaN_ofMagnitude (Nat.zero_le _)
  · split
    · exact isNaN_ofMagnitude le_rfl
    · next h => exact isNaN_ofMagnitude (Nat.le_of_not_le h)

/-- The digits of a number of moderate size round to what the number rounds to. -/
theorem round_whole (h : ∀ c ∈ l, c.isDigit = true) (small : Nat.ofDigitChars 10 l 0 < 10 ^ 20)
    (negative : Bool) :
    (Decimal.mk l 0).round negative = ofRatio negative (Nat.ofDigitChars 10 l 0) 1 := by
  have digits : ∀ c ∈ l.dropWhile (· == '0'), c.isDigit = true := fun c hc =>
    h c (List.dropWhile_subset _ hc)
  rw [← ofDigitChars_dropWhile] at small ⊢
  unfold Decimal.round
  dsimp only
  cases hd : l.dropWhile (· == '0') with
  | nil => rfl
  | cons c r =>
    rw [hd] at digits small
    have first : c ≠ '0' := by
      have := head?_dropWhile_not _ _ c (congrArg List.head? hd)
      simpa using this
    have least := pow_le_ofDigitChars (digits c List.mem_cons_self) first r
    have few : r.length < 20 :=
      (Nat.pow_lt_pow_iff_right (by decide)).1 (Nat.lt_of_le_of_lt least small)
    rw [if_neg (by simp; omega), if_neg (by simp; omega)]
    unfold ofDecimal
    rw [if_pos le_rfl]
    simp

/-! ## Reading whole numbers -/

/-- A whole number is a sign and some digits, and read as such as a floating point number too. -/
theorem exists_of_readInt? (h : readInt? l = some i) : ∃ negative c r,
    (∀ d ∈ c :: r, d.isDigit = true) ∧ (∀ d ∈ l, d ∈ c :: r ∨ d = '-' ∨ d = '+') ∧
      ofText? l = readMagnitude? negative (c :: r) ∧
      i = if negative then -(Nat.ofDigitChars 10 (c :: r) 0 : Int) else Nat.ofDigitChars 10 (c :: r) 0 := by
  have digits {l : List Char} {n : Nat} (h : readDigits? l = some n) : ∃ c r, l = c :: r ∧
      (∀ d ∈ c :: r, d.isDigit = true) ∧ n = Nat.ofDigitChars 10 (c :: r) 0 := by
    unfold readDigits? at h
    split at h
    · cases h
    · next hl =>
      cases h
      simp only [Bool.or_eq_true, Bool.not_eq_true', not_or, List.isEmpty_iff,
        Bool.not_eq_false, List.all_eq_true] at hl
      obtain ⟨c, r, rfl⟩ := List.exists_cons_of_ne_nil hl.1
      exact ⟨c, r, rfl, hl.2, rfl⟩
  unfold readInt? at h
  split at h
  · obtain ⟨n, hn, rfl⟩ : ∃ n, readDigits? _ = some n ∧ -(n : Int) = i := by
      simpa [Option.bind_eq_some_iff] using h
    obtain ⟨c, r, rfl, all, rfl⟩ := digits hn
    refine ⟨true, c, r, all, fun d hd => ?_, rfl, rfl⟩
    exact (List.mem_cons.1 hd).elim (fun h => .inr (.inl h)) .inl
  · obtain ⟨n, hn, rfl⟩ : ∃ n, readDigits? _ = some n ∧ (n : Int) = i := by
      simpa [Option.bind_eq_some_iff] using h
    obtain ⟨c, r, rfl, all, rfl⟩ := digits hn
    refine ⟨false, c, r, all, fun d hd => ?_, rfl, rfl⟩
    exact (List.mem_cons.1 hd).elim (fun h => .inr (.inr h)) .inl
  · next minus plus =>
    obtain ⟨n, hn, rfl⟩ : ∃ n, readDigits? _ = some n ∧ (n : Int) = i := by
      simpa [Option.bind_eq_some_iff] using h
    obtain ⟨c, r, rfl, all, rfl⟩ := digits hn
    refine ⟨false, c, r, all, fun d hd => .inl hd, ?_, rfl⟩
    refine ofText?_sign false fun d hd => ?_
    cases hd
    exact ⟨fun h => minus r (by rw [h]), fun h => plus r (by rw [h])⟩

/-- What is read as a whole number is read as the floating point number nearest to it. -/
theorem ofText?_of_readInt64? {i : Int64} (h : readInt64? l = some i) :
    ∃ x, ofText? l = some x ∧ (x == ofInt i.toInt) = true := by
  unfold readInt64? at h
  split at h
  case h_2 => cases h
  case h_1 j hj =>
  split at h
  case isFalse => cases h
  case isTrue range =>
  cases h
  obtain ⟨negative, c, r, digits, -, read, value⟩ := exists_of_readInt? hj
  generalize hn : Nat.ofDigitChars 10 (c :: r) 0 = n at value
  have lower : Int64.minValue.toInt = -9223372036854775808 := rfl
  have upper : Int64.maxValue.toInt = 9223372036854775807 := rfl
  have abs : j.natAbs = n := by
    rw [value]
    split <;> simp
  have small : n < 10 ^ 20 :=
    Nat.lt_of_le_of_lt (by omega : n ≤ 9223372036854775808) (by decide)
  rw [readMagnitude?_digit (digits c List.mem_cons_self),
    readDecimal?_whole digits (List.cons_ne_nil _ _), Option.map_some,
    round_whole digits (hn ▸ small), hn] at read
  refine ⟨_, read, ?_⟩
  rw [Int64.toInt_ofInt_of_le range.1 (by omega), ofInt, abs]
  by_cases zero : n = 0
  · subst zero
    cases negative <;> cases decide (j < 0) <;> decide
  · have sign : decide (j < 0) = negative := by
      cases negative <;> simp at value <;> simp [value]
      omega
    rw [sign]
    exact beq_self (isNaN_ofRatio _ _ _)

/-! ## Colons -/

theorem colon_not_mem_of_readInt? (h : readInt? l = some i) : ':' ∉ l := by
  obtain ⟨-, c, r, digits, mem, -⟩ := exists_of_readInt? h
  intro hc
  rcases mem _ hc with hc | hc | hc
  · exact absurd (digits _ hc) (by decide)
  · cases hc
  · cases hc

theorem colon_not_mem_of_readExponent? (h : readExponent? l = some i) : ':' ∉ l := by
  unfold readExponent? at h
  split at h
  · exact List.not_mem_nil
  · next c r =>
    split at h
    · next hc =>
      refine List.not_mem_cons_of_ne_of_not_mem ?_ (colon_not_mem_of_readInt? h)
      rintro rfl
      exact absurd hc (by decide)
    · cases h

theorem colon_not_mem_of_readDecimal? {d : Decimal} (h : readDecimal? l = some d) : ':' ∉ l := by
  have digits (l : List Char) : ':' ∉ l.takeWhile Char.isDigit := fun hc =>
    absurd (List.mem_takeWhile_imp hc) (by decide)
  rw [← List.takeWhile_append_dropWhile (p := Char.isDigit) (l := l), List.mem_append, not_or]
  refine ⟨digits l, ?_⟩
  unfold readDecimal? at h
  dsimp only at h
  split at h
  · next r hr =>
    rw [hr]
    split at h
    · cases h
    · obtain ⟨e, he, -⟩ := Option.map_eq_some_iff.1 h
      refine List.not_mem_cons_of_ne_of_not_mem (by decide) ?_
      rw [← List.takeWhile_append_dropWhile (p := Char.isDigit) (l := r), List.mem_append, not_or]
      exact ⟨digits r, colon_not_mem_of_readExponent? he⟩
  · split at h
    · cases h
    · obtain ⟨e, he, -⟩ := Option.map_eq_some_iff.1 h
      exact colon_not_mem_of_readExponent? he

/-- What is read as a number has no colon. -/
theorem colon_not_mem_of_ofText? (h : ofText? l = some x) : ':' ∉ l := by
  have magnitude {negative : Bool} {l : List Char} (h : readMagnitude? negative l = some x) :
      ':' ∉ l := by
    intro hc
    have lower : ':' ∈ l.map Char.toLower := List.mem_map.2 ⟨':', hc, by decide⟩
    unfold readMagnitude? at h
    dsimp only at h
    split at h
    · next word =>
      simp only [Bool.or_eq_true, beq_iff_eq] at word
      rcases word with word | word <;> rw [word] at lower <;> exact absurd lower (by decide)
    · split at h
      · next word =>
        rw [beq_iff_eq] at word
        rw [word] at lower
        exact absurd lower (by decide)
      · obtain ⟨d, hd, -⟩ := Option.map_eq_some_iff.1 h
        exact colon_not_mem_of_readDecimal? hd hc
  unfold ofText? at h
  split at h
  · exact List.not_mem_cons_of_ne_of_not_mem (by decide) (magnitude h)
  · exact List.not_mem_cons_of_ne_of_not_mem (by decide) (magnitude h)
  · exact magnitude h

/-! ## Equal numbers -/

/-- The texts of equal numbers are read as the same whole number, also those of the two zeros. -/
theorem readInt64?_toText_of_beq (h : (x == y) = true) :
    readInt64? x.toText.toList = readInt64? y.toText.toList := by
  change numEq x y = true at h
  simp only [numEq, Bool.and_eq_true, Bool.or_eq_true, beq_iff_eq] at h
  obtain ⟨-, same | ⟨hx, hy⟩⟩ := h
  · rw [show x = y by cases x; cases y; exact congrArg mk same]
  · have text (negative : Bool) : readInt64? (zero negative).toText.toList = some 0 := by
      cases negative <;> decide
    rw [eq_zero hx, eq_zero hy, text, text]

end Binary64

end Bxml
