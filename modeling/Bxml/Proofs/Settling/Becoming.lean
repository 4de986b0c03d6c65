import Bxml.Proofs.Settling.Readings

/-!
# What values become

A value becomes others on its way through slots, and may come back to where it was.  Slots of most
types store equal values for all that it becomes.  Those for whole numbers do so before it is rounded,
and again afterwards, `Value.Becomes.exactly_or_rounded`: a slot for floating point numbers rounds a
large number, and all that comes of what it stores stands for one whole number.

* `Value.Becomes` is the way of a value through slots of some types, as an inductive relation.
* `ValueType.IsFixed` says that slots of a type store equal values for all of some values.  For most
  types it holds because a slot on the way makes no difference (`Becomes.isFixed_of_back`, with the
  lemmas of `Settling/Readings.lean`); for whole numbers it holds on either side of the rounding
  (`isFixed_exactly`, `isFixed_of_float`).
* `Value.IsDefinite` is the condition on a value: neither it nor what is read for it is a NaN, and
  slots for URLs store equal values.  `isDefinite_of_readsBack` meets it where URLs are read from
  their texts.
-/

namespace Bxml

namespace Value

variable {types : ValueType → Prop} {a b c : Value} {i : Int64}

/-! ## Along slots -/

/-- What a value becomes on its way through slots of some types. -/
inductive Becomes (types : ValueType → Prop) (a : Value) : Value → Prop
  | refl : Becomes types a a
  | stored {t : ValueType} {b c : Value} : Becomes types a b → types t → t.stored? b = some c →
    Becomes types a c

namespace Becomes

theorem trans (hb : a.Becomes types b) (hc : b.Becomes types c) : a.Becomes types c := by
  induction hc with
  | refl => exact hb
  | stored _ ht h ih => exact ih.stored ht h

theorem mono {types' : ValueType → Prop} (hb : a.Becomes types b)
    (h : ∀ t, types t → types' t) : a.Becomes types' b := by
  induction hb with
  | refl => exact .refl
  | stored _ ht hc ih => exact ih.stored (h _ ht) hc

/-- Only null becomes null. -/
theorem eq_null (hb : a.Becomes types b) (hn : b = .null) : a = .null := by
  induction hb with
  | refl => exact hn
  | stored _ _ hc ih =>
    subst hn
    exact ih (ValueType.eq_null_of_stored? hc)

/-- Null becomes nothing else. -/
theorem of_null (hb : Value.null.Becomes types b) : b = .null := by
  induction hb with
  | refl => rfl
  | @stored t b c _ _ hc ih =>
    cases ih
    cases t <;> exact (Option.some.inj hc).symm

end Becomes

/-- Whether a value becomes another without a slot for floating point numbers on its way. -/
def BecomesExactly (types : ValueType → Prop) : Value → Value → Prop :=
  Becomes fun t => types t ∧ t ≠ .float

theorem BecomesExactly.becomes (hb : a.BecomesExactly types b) : a.Becomes types b :=
  Becomes.mono hb fun _ => And.left

theorem BecomesExactly.whole?_eq (hb : a.BecomesExactly types b) (hi : b.whole? = some i) :
    a.whole? = some i := by
  induction hb with
  | refl => exact hi
  | stored _ ht hc ih => exact ih (whole?_of_stored? ht.2 hc hi)

/-- What a value becomes, it becomes without a slot for floating point numbers on its way, or after
it has been made a floating point number. -/
theorem Becomes.exactly_or_rounded (hb : a.Becomes types b) : a.BecomesExactly types b ∨
    ∃ x, a.Becomes types (.float x) ∧ (Value.float x).Becomes types b := by
  induction hb with
  | refl => exact .inl .refl
  | @stored t b c hb ht hc ih =>
    obtain exactly | ⟨x, hx, hxb⟩ := ih
    · by_cases hf : t = .float
      · subst hf
        rcases ValueType.owns_of_stored? hc with rfl | number
        · cases ValueType.eq_null_of_stored? hc
          exact .inl exactly
        · cases c <;> simp only [ValueType.owns, Bool.false_eq_true] at number
          exact .inr ⟨_, hb.stored ht hc, .refl⟩
      · exact .inl (exactly.stored ⟨ht, hf⟩ hc)
    · exact .inr ⟨x, hx, hxb.stored ht hc⟩

end Value

/-! ## Definite values -/

namespace ValueType

/-- Whether slots of the type read and turn the values they are given; the others, for any value and
for strings, are loose. -/
def isFirm : ValueType → Bool
  | .any => false
  | .string => false
  | _ => true

/-- Whether slots of the type store equal values for all of some values. -/
def IsFixed (t : ValueType) (values : Value → Prop) : Prop :=
  ∀ ⦃b c b' c'⦄, values b → values b' → t.stored? b = some c → t.stored? b' = some c' →
    (c == c') = true

theorem IsFixed.mono {t : ValueType} {values values' : Value → Prop} (h : t.IsFixed values)
    (sub : ∀ v, values' v → values v) : t.IsFixed values' :=
  fun _ _ _ _ hb hb' => h (sub _ hb) (sub _ hb')

/-- There is a value that slots of the type store, if they store equal values. -/
theorem IsFixed.exists_one {t : ValueType} {values : Value → Prop} (h : t.IsFixed values) :
    ∃ y, ∀ b c, values b → t.stored? b = some c → (c == y) = true := by
  by_cases some : ∃ b c, values b ∧ t.stored? b = some c
  · obtain ⟨b', y, hb', hy⟩ := some
    exact ⟨y, fun b c hb hc => h hb hb' hc hy⟩
  · exact ⟨.null, fun b c hb hc => absurd ⟨b, c, hb, hc⟩ some⟩

end ValueType

namespace Value

variable {types : ValueType → Prop} {a b c : Value} {t : ValueType} {x : Binary64}

/-- Slots store equal values for all that a value becomes, if a slot on its way makes no difference to
what they store for it. -/
theorem Becomes.isFixed_of_back (number : ∀ c, t.stored? a = some c → c.isNumberOrOther = true)
    (back : ∀ {s : ValueType} {b c y : Value}, a.Becomes types b → types s →
      s.stored? b = some c → t.stored? c = some y →
      ∃ x, t.stored? b = some x ∧ (x.isNumberOrOther = true → (x == y) = true)) :
    t.IsFixed (a.Becomes types) := by
  have first {b c : Value} (hb : a.Becomes types b) (hc : t.stored? b = some c) :
      ∃ x, t.stored? a = some x ∧ (x == c) = true := by
    induction hb generalizing c with
    | refl => exact ⟨c, hc, beq_self (number c hc)⟩
    | stored hb hs h ih =>
      obtain ⟨x, hx, near⟩ := back hb hs h hc
      obtain ⟨z, hz, near'⟩ := ih hx
      exact ⟨z, hz, beq_trans near' (near (isNumberOrOther_of_beq ((beq_comm _ _).trans near')))⟩
  intro b c b' c' hb hb' hc hc'
  obtain ⟨x, hx, near⟩ := first hb hc
  obtain ⟨x', hx', near'⟩ := first hb' hc'
  cases hx.symm.trans hx'
  exact beq_trans ((beq_comm _ _).trans near) near'

/-- What is no NaN, and not read as one, becomes nothing that is one or is read as one. -/
theorem Becomes.isNumberOrOther (hb : a.Becomes types b) (number : a.isNumberOrOther = true)
    (read : types .float → ∀ c, ValueType.float.stored? a = some c → c.isNumberOrOther = true) :
    b.isNumberOrOther = true ∧
      (types .float → ∀ c, ValueType.float.stored? b = some c → c.isNumberOrOther = true) := by
  induction hb with
  | refl => exact ⟨number, read⟩
  | @stored s b c hb hs hc ih =>
    refine ⟨?_, fun ht y hy => ?_⟩
    · by_cases hf : s = .float
      · subst hf
        exact ih.2 hs c hc
      · by_cases ha : s = .any
        · subst ha
          cases hc
          exact ih.1
        · exact ValueType.isNumberOrOther_of_stored? hc ha hf
    · obtain ⟨x, hx, near⟩ := ValueType.exists_float_stored? hc ih.1 hy
      exact isNumberOrOther_of_beq ((beq_comm _ _).trans (near (ih.2 ht x hx)))

/-- Whether a value is no NaN, and not read as one by slots for floating point numbers, while slots
for URLs store equal values for all that it becomes. -/
structure IsDefinite (types : ValueType → Prop) (a : Value) : Prop where
  number : a.isNumberOrOther = true
  read : types .float → ∀ c, ValueType.float.stored? a = some c → c.isNumberOrOther = true
  url : types .url → ValueType.url.IsFixed (a.Becomes types)

namespace IsDefinite

theorem of_becomes (ha : a.IsDefinite types) (hb : a.Becomes types b) : b.IsDefinite types where
  number := (hb.isNumberOrOther ha.number ha.read).1
  read := (hb.isNumberOrOther ha.number ha.read).2
  url ht := (ha.url ht).mono fun _ => hb.trans

/-- All that a definite value becomes equals itself. -/
theorem equal (ha : a.IsDefinite types) (hb : a.Becomes types b) : (b == b) = true :=
  beq_self (ha.of_becomes hb).number

/-- Slots of most types store equal values for all that a definite value becomes. -/
theorem isFixed (ha : a.IsDefinite types) (ht : types t) (hf : t.isFirm = true) (hi : t ≠ .int) :
    t.IsFixed (a.Becomes types) := by
  cases t with
  | any | string => cases hf
  | int => exact absurd rfl hi
  | url => exact ha.url ht
  | float =>
    exact Becomes.isFixed_of_back (ha.read ht) fun hb _ hs hy =>
      ValueType.exists_float_stored? hs (ha.of_becomes hb).number hy
  | bool =>
    exact Becomes.isFixed_of_back (fun _ hc => ValueType.isNumberOrOther_of_stored? hc nofun nofun)
      fun _ _ hs hy => ⟨_, ValueType.bool_stored?_of_stored? hs hy, beq_self⟩
  | object =>
    exact Becomes.isFixed_of_back (fun _ hc => ValueType.isNumberOrOther_of_stored? hc nofun nofun)
      fun _ _ hs hy => ⟨_, ValueType.object_stored?_of_stored? hs hy, beq_self⟩

/-- Slots for whole numbers store equal values for null, or for values that are all read as the same
whole number. -/
theorem isFixed_int {values : Value → Prop} (hn : values .null → ∀ b, values b → b = .null)
    (same : ∀ b i, values b → b.whole? = some i → a.whole? = some i) :
    ValueType.int.IsFixed values := by
  intro b c b' c' hb hb' hc hc'
  obtain ⟨rfl, rfl⟩ | ⟨i, rfl, hi⟩ := int_stored?_cases hc
  · cases hn hb _ hb'
    cases hc'
    rfl
  · obtain ⟨rfl, rfl⟩ | ⟨j, rfl, hj⟩ := int_stored?_cases hc'
    · cases hn hb' _ hb
      cases hi
    · cases (same b i hb hi).symm.trans (same b' j hb' hj)
      exact beq_self rfl

/-- Slots of all types but loose ones store equal values for what a definite value becomes before it
is rounded. -/
theorem isFixed_exactly (ha : a.IsDefinite types) (ht : types t) (hf : t.isFirm = true) :
    t.IsFixed (a.BecomesExactly types) := by
  by_cases hi : t = .int
  · subst hi
    refine isFixed_int (fun hn b hb => ?_) fun b i hb => hb.whole?_eq
    cases Becomes.eq_null hn rfl
    exact Becomes.of_null hb
  · exact (ha.isFixed ht hf hi).mono fun _ hb => hb.becomes

/-- What a definite floating point number becomes stands for one whole number at most. -/
theorem whole?_of_float (hx : (Value.float x).IsDefinite types)
    (hb : (Value.float x).Becomes types b) {i : Int64} (hi : b.whole? = some i) :
    (Value.float x).whole? = some i := by
  induction hb with
  | refl => exact hi
  | @stored s b c hb hs hc ih =>
    by_cases hf : s = .float
    · subst hf
      rcases ValueType.owns_of_stored? hc with rfl | number
      · cases hi
      · cases c <;> simp only [ValueType.owns, Bool.false_eq_true] at number
        have same := hx.isFixed hs rfl (by decide) .refl hb rfl hc
        exact (Binary64.readInt64?_toText_of_beq same).trans hi
    · exact ih (whole?_of_stored? hf hc hi)

/-- Slots of all types but loose ones store equal values for what a definite floating point number
becomes. -/
theorem isFixed_of_float (hx : (Value.float x).IsDefinite types) (ht : types t)
    (hf : t.isFirm = true) : t.IsFixed ((Value.float x).Becomes types) := by
  by_cases hi : t = .int
  · subst hi
    refine isFixed_int (fun hn b hb => ?_) fun b i hb => hx.whole?_of_float hb
    cases Becomes.eq_null hn rfl
  · exact hx.isFixed ht hf hi

end IsDefinite

/-! ## Which values are definite -/

/-- Where no slots are for URLs, a value becomes no URL that it is not already. -/
theorem Becomes.readsBack (hb : a.Becomes types b) (none : ¬ types .url) (ha : a.ReadsBack) :
    b.ReadsBack := by
  induction hb with
  | refl => exact ha
  | @stored s b c _ hs hc ih =>
    obtain rfl | ⟨_, -, -, rfl⟩ | ⟨text, rfl, read⟩ | ⟨-, rfl, -⟩ := ValueType.stored?_cases hc
    · exact ih
    · trivial
    · obtain rfl | ⟨_, -, rfl, -⟩ | ⟨_, -, rfl, -⟩ | ⟨_, -, rfl, -⟩ | ⟨_, rfl, -⟩ :=
        ValueType.read?_cases read
      case inr.inr.inr.inr => exact absurd hs none
      all_goals trivial
    · trivial

/-- A value is definite if it is no NaN, and not read as one, and the URLs among what it becomes are
read from their texts. -/
theorem isDefinite_of_readsBack (number : a.isNumberOrOther = true)
    (read : types .float → ∀ c, ValueType.float.stored? a = some c → c.isNumberOrOther = true)
    (back : ∀ b, a.Becomes types b → b.ReadsBack) : a.IsDefinite types where
  number := number
  read := read
  url _ := Becomes.isFixed_of_back
    (fun _ hc => ValueType.isNumberOrOther_of_stored? hc nofun nofun) fun hb _ hs hy => by
      obtain ⟨x, hx, near⟩ := ValueType.exists_url_stored? hs (back _ hb) hy
      exact ⟨x, hx, fun _ => near⟩

end Value

end Bxml
