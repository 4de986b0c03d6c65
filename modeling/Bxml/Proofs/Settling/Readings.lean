import Bxml.Proofs.Binary64.Whole
import Bxml.Proofs.Coercion

/-!
# What is stored for what was stored

Texts are read as values of many types, and most values have a text of their own.  No text is read
both as a number and as a URL, or as a truth value and as anything else, so that what is stored for a
value and stored again in a slot of another type is often what that slot stores for the value itself.
Whole numbers are the exception: a slot for floating point numbers rounds them, and what it stores may
be read as another one.

* `stored?_cases` and `read?_cases` say once what is stored for a value and what a text is read as;
  everything else is by cases on them.
* For each firm type there is a lemma that a slot on the way makes no difference:
  `exists_float_stored?`, `bool_stored?_of_stored?`, `object_stored?_of_stored?`,
  `exists_url_stored?`.
* For whole numbers there is `whole?_of_stored?`: only a slot for floating point numbers makes
  another whole number of one.
-/

namespace Bxml

open Text

/-! ## What a text is read as -/

namespace Text

variable {l : List Char} {c : Char}

/-- Trimming leaves everything that is no white space. -/
theorem mem_trimChars (hc : c ∈ l) (blank : isBlank c = false) : c ∈ trimChars l := by
  obtain ⟨-, front, back, hl, hf, hb⟩ := trims_trimChars l
  rw [hl, List.mem_append, List.mem_append] at hc
  rcases hc with (hc | hc) | hc
  · exact absurd ((hf c hc).symm.trans blank) (by decide)
  · exact hc
  · exact absurd ((hb c hc).symm.trans blank) (by decide)

end Text

namespace Url

theorem colon_mem_text (u : Url) : ':' ∈ u.text.toList := by
  rw [text, String.toList_ofList]
  unfold chars
  simp

/-- What is read as a URL has a colon. -/
theorem colon_mem_of_parse {s : String} {u : Url} (h : parse s = .ok u) : ':' ∈ s.toList := by
  unfold parse readFrom at h
  dsimp only at h
  split at h
  · next scheme rest hs =>
    obtain ⟨-, -, name, hl⟩ := exists_of_scheme? hs
    have hc : ':' ∈ cleaned s.toList := hl ▸ List.mem_append_right _ List.mem_cons_self
    unfold cleaned at hc
    have hc := List.dropWhile_subset _ (List.mem_reverse.1 (List.mem_filter.1 hc).1)
    exact List.dropWhile_subset _ (List.mem_reverse.1 hc)
  · cases h

end Url

/-- A value that equals another one is no NaN. -/
theorem Value.isNumberOrOther_of_beq {v a : Value} (h : (v == a) = true) :
    v.isNumberOrOther = true := by
  change same v a = true at h
  cases v with
  | float x =>
    cases a <;> simp only [same, Bool.false_eq_true] at h
    exact Bool.not_eq_true' _ ▸ (Binary64.not_isNaN_of_beq h).1
  | _ => rfl

namespace ValueType

variable {s t : ValueType} {b c y : Value} {text : String}

/-- What is stored for a value is the value, a whole number made a floating point number, what a
text is read as, or a text. -/
theorem stored?_cases (h : s.stored? b = some c) : c = b ∨
    (∃ i, s = .float ∧ b = .int i ∧ c = .float (Binary64.ofInt i.toInt)) ∨
    (∃ text, b = .string text ∧ s.read? text = some c) ∨
    s = .string ∧ c = .string (b.text fun _ => "") ∧ ∀ o, b ≠ .object o := by
  cases b
  case null => exact .inl (by cases s <;> exact (Option.some.inj h).symm)
  case string text => exact .inr (.inr (.inl ⟨text, rfl, stored?_eq_read? s text ▸ h⟩))
  all_goals
    cases s <;> first
      | exact .inl (Option.some.inj h).symm
      | exact .inr (.inl ⟨_, rfl, rfl, (Option.some.inj h).symm⟩)
      | exact .inr (.inr (.inr ⟨rfl, (Option.some.inj h).symm, nofun⟩))
      | cases h

/-- What a text is read as: itself, a truth value, a number or a URL. -/
theorem read?_cases (h : s.read? text = some c) : c = .string text ∨
    (∃ b, s = .bool ∧ c = .bool b ∧ trimChars text.toList = (Value.boolText b).toList) ∨
    (∃ i, s = .int ∧ c = .int i ∧ readInt64? (trimChars text.toList) = some i) ∨
    (∃ x, s = .float ∧ c = .float x ∧ Binary64.ofText? (trimChars text.toList) = some x) ∨
    ∃ u, s = .url ∧ c = .url u ∧ ':' ∈ trimChars text.toList := by
  unfold read? at h
  cases s with
  | any | string => exact .inl (Option.some.inj h).symm
  | object => cases h
  | bool =>
    refine .inr (.inl ?_)
    simp only at h
    split at h
    · next ht => exact ⟨true, rfl, (Option.some.inj h).symm, ht⟩
    · split at h
      · next hf => exact ⟨false, rfl, (Option.some.inj h).symm, hf⟩
      · cases h
  | int =>
    obtain ⟨i, hi, rfl⟩ := Option.map_eq_some_iff.1 h
    exact .inr (.inr (.inl ⟨i, rfl, rfl, hi⟩))
  | float =>
    obtain ⟨x, hx, rfl⟩ := Option.map_eq_some_iff.1 h
    exact .inr (.inr (.inr (.inl ⟨x, rfl, rfl, hx⟩)))
  | url =>
    obtain ⟨u, hu, rfl⟩ := Option.map_eq_some_iff.1 h
    refine .inr (.inr (.inr (.inr ⟨u, rfl, rfl, ?_⟩)))
    cases hp : Url.parse (String.ofList (trimChars text.toList)) with
    | error e =>
      rw [hp] at hu
      cases hu
    | ok v => simpa using Url.colon_mem_of_parse hp

/-! ## What the text of a value is read as -/

/-- No text of a truth value is read as a number. -/
theorem ofText?_boolText (d : Bool) : Binary64.ofText? (Value.boolText d).toList = none := by
  cases d <;> decide

/-- Only the texts of numbers are read as numbers, and strings. -/
theorem number_of_ofText? {x : Binary64}
    (h : Binary64.ofText? (trimChars (b.text fun _ => "").toList) = some x) :
    (∃ i, b = .int i ∧ (Binary64.ofInt i.toInt == x) = true) ∨
      (∃ z, b = .float z ∧ (z.isNaN = false → z = x)) ∨ ∃ text, b = .string text := by
  cases b with
  | int i =>
    change Binary64.ofText? (trimChars (writeInt64 i).toList) = some x at h
    rw [trimChars_eq_self.2 (visible_writeInt64 i).isTrimmed] at h
    obtain ⟨z, hz, near⟩ := Binary64.ofText?_of_readInt64? (readInt64?_writeInt64 i)
    cases hz.symm.trans h
    exact .inl ⟨i, rfl, (Binary64.beq_comm _ _).trans near⟩
  | float z =>
    change Binary64.ofText? (trimChars z.toText.toList) = some x at h
    rw [trimChars_eq_self.2 (Binary64.visible_toText z).isTrimmed] at h
    refine .inr (.inl ⟨z, rfl, fun number => ?_⟩)
    exact Option.some.inj ((Binary64.ofText?_toText number).symm.trans h)
  | string text => exact .inr (.inr ⟨text, rfl⟩)
  | url u =>
    have colon := mem_trimChars u.colon_mem_text (by decide)
    exact absurd colon (Binary64.colon_not_mem_of_ofText? h)
  | null =>
    have none : Binary64.ofText? (trimChars "null".toList) = none := by decide
    cases none.symm.trans h
  | bool d =>
    have none : Binary64.ofText? (trimChars (Value.boolText d).toList) = none := by
      cases d <;> decide
    cases none.symm.trans h
  | vote v =>
    have none : Binary64.ofText? (trimChars v.text.toList) = none := by cases v <;> decide
    cases none.symm.trans h
  | object o =>
    have none : Binary64.ofText? (trimChars "[]".toList) = none := by decide
    cases none.symm.trans h

/-- Only the texts of truth values are read as truth values, and strings. -/
theorem truth_of_text {d : Bool}
    (h : trimChars (b.text fun _ => "").toList = (Value.boolText d).toList) :
    b = .bool d ∨ ∃ text, b = .string text := by
  have none := ofText?_boolText d
  cases b with
  | int i =>
    change trimChars (writeInt64 i).toList = _ at h
    rw [trimChars_eq_self.2 (visible_writeInt64 i).isTrimmed] at h
    obtain ⟨z, hz, -⟩ := Binary64.ofText?_of_readInt64? (readInt64?_writeInt64 i)
    rw [h, none] at hz
    cases hz
  | float z =>
    change trimChars z.toText.toList = _ at h
    rw [trimChars_eq_self.2 (Binary64.visible_toText z).isTrimmed] at h
    rw [← h] at none
    cases hn : z.isNaN with
    | true => cases none.symm.trans (Binary64.ofText?_toText_of_isNaN hn)
    | false => cases none.symm.trans (Binary64.ofText?_toText hn)
  | string text => exact .inr ⟨text, rfl⟩
  | url u =>
    have colon : ':' ∈ trimChars u.text.toList := mem_trimChars u.colon_mem_text (by decide)
    have none : ':' ∉ (Value.boolText d).toList := by cases d <;> decide
    exact absurd (h ▸ colon) none
  | bool e =>
    have same : trimChars (Value.boolText e).toList = (Value.boolText d).toList → e = d := by
      cases e <;> cases d <;> decide
    exact .inl (congrArg Value.bool (same h))
  | null =>
    have other : trimChars "null".toList ≠ (Value.boolText d).toList := by cases d <;> decide
    exact absurd h other
  | vote v =>
    have other : trimChars v.text.toList ≠ (Value.boolText d).toList := by
      cases v <;> cases d <;> decide
    exact absurd h other
  | object o =>
    have other : trimChars "[]".toList ≠ (Value.boolText d).toList := by cases d <;> decide
    exact absurd h other

/-- Only the texts of URLs have a colon, and strings. -/
theorem url_of_colon_mem (h : ':' ∈ trimChars (b.text fun _ => "").toList) :
    (∃ u, b = .url u) ∨ ∃ text, b = .string text := by
  cases b with
  | url u => exact .inl ⟨u, rfl⟩
  | string text => exact .inr ⟨text, rfl⟩
  | int i =>
    change ':' ∈ trimChars (writeInt64 i).toList at h
    rw [trimChars_eq_self.2 (visible_writeInt64 i).isTrimmed] at h
    obtain ⟨z, hz, -⟩ := Binary64.ofText?_of_readInt64? (readInt64?_writeInt64 i)
    exact absurd h (Binary64.colon_not_mem_of_ofText? hz)
  | float z =>
    change ':' ∈ trimChars z.toText.toList at h
    rw [trimChars_eq_self.2 (Binary64.visible_toText z).isTrimmed] at h
    cases hn : z.isNaN with
    | true => exact absurd h (Binary64.colon_not_mem_of_ofText? (Binary64.ofText?_toText_of_isNaN hn))
    | false => exact absurd h (Binary64.colon_not_mem_of_ofText? (Binary64.ofText?_toText hn))
  | null =>
    have none : ':' ∉ trimChars "null".toList := by decide
    exact absurd h none
  | bool d =>
    have none : ':' ∉ trimChars (Value.boolText d).toList := by cases d <;> decide
    exact absurd h none
  | vote v =>
    have none : ':' ∉ trimChars v.text.toList := by cases v <;> decide
    exact absurd h none
  | object o =>
    have none : ':' ∉ trimChars "[]".toList := by decide
    exact absurd h none

/-! ## What was stored for it before -/

/-- Only slots for any value and for floating point numbers store a NaN. -/
theorem isNumberOrOther_of_stored? (h : t.stored? b = some y) (ha : t ≠ .any) (hf : t ≠ .float) :
    y.isNumberOrOther = true := by
  rcases owns_of_stored? h with rfl | kind
  · rfl
  · cases t <;> cases y <;> simp_all [owns, Value.isNumberOrOther]

/-- What a slot for floating point numbers stores for what was stored for a value, it stores for the
value, unless it is a NaN. -/
theorem exists_float_stored? (h : s.stored? b = some c) (hb : b.isNumberOrOther = true)
    (hy : float.stored? c = some y) :
    ∃ x, float.stored? b = some x ∧ (x.isNumberOrOther = true → (x == y) = true) := by
  obtain rfl | ⟨i, rfl, rfl, rfl⟩ | ⟨text, rfl, hc⟩ | ⟨rfl, rfl, -⟩ := stored?_cases h
  · exact ⟨y, hy, Value.beq_self⟩
  · exact ⟨y, hy, Value.beq_self⟩
  · obtain rfl | ⟨_, rfl, rfl, -⟩ | ⟨i, rfl, rfl, hi⟩ | ⟨x, rfl, rfl, -⟩ | ⟨_, rfl, rfl, -⟩ :=
      read?_cases hc
    · exact ⟨y, hy, Value.beq_self⟩
    · cases hy
    · obtain ⟨x, hx, near⟩ := Binary64.ofText?_of_readInt64? hi
      cases hy
      exact ⟨.float x, (stored?_eq_read? ..).trans (congrArg (Option.map Value.float) hx),
        fun _ => near⟩
    · cases hy
      exact ⟨_, h, Value.beq_self⟩
    · cases hy
  · obtain ⟨x, hx, rfl⟩ := Option.map_eq_some_iff.1 ((stored?_eq_read? ..).symm.trans hy)
    obtain ⟨i, rfl, near⟩ | ⟨z, rfl, same⟩ | ⟨text, rfl⟩ := number_of_ofText? hx
    · exact ⟨_, rfl, fun _ => near⟩
    · obtain rfl : z = x := same (by simpa [Value.isNumberOrOther] using hb)
      exact ⟨_, rfl, Value.beq_self⟩
    · exact ⟨_, hy, Value.beq_self⟩

/-- What a slot for truth values stores for what was stored for a value, it stores for the value. -/
theorem bool_stored?_of_stored? (h : s.stored? b = some c) (hy : bool.stored? c = some y) :
    bool.stored? b = some y := by
  obtain rfl | ⟨i, rfl, rfl, rfl⟩ | ⟨text, rfl, hc⟩ | ⟨rfl, rfl, -⟩ := stored?_cases h
  · exact hy
  · cases hy
  · obtain rfl | ⟨_, rfl, rfl, -⟩ | ⟨_, rfl, rfl, -⟩ | ⟨_, rfl, rfl, -⟩ | ⟨_, rfl, rfl, -⟩ :=
      read?_cases hc
    · exact hy
    · cases hy
      exact h
    all_goals cases hy
  · rw [stored?_eq_read?] at hy
    obtain rfl | ⟨d, -, rfl, hd⟩ | ⟨_, hf, -⟩ | ⟨_, hf, -⟩ | ⟨_, hf, -⟩ := read?_cases hy
    · cases owns_of_read? hy
    · obtain rfl | ⟨text, rfl⟩ := truth_of_text hd
      · rfl
      · exact (stored?_eq_read? ..).trans hy
    all_goals cases hf

/-- Objects are stored for themselves only. -/
theorem object_stored?_of_stored? (h : s.stored? b = some c) (hy : object.stored? c = some y) :
    object.stored? b = some y := by
  obtain rfl | ⟨i, rfl, rfl, rfl⟩ | ⟨text, rfl, hc⟩ | ⟨rfl, rfl, -⟩ := stored?_cases h
  · exact hy
  · cases hy
  · obtain rfl | ⟨_, rfl, rfl, -⟩ | ⟨_, rfl, rfl, -⟩ | ⟨_, rfl, rfl, -⟩ | ⟨_, rfl, rfl, -⟩ :=
      read?_cases hc
    all_goals cases hy
  · cases hy

/-- What a slot for URLs stores for what was stored for a value, it stores for the value, if the value
is no URL that is not read from its text. -/
theorem exists_url_stored? (h : s.stored? b = some c) (hb : b.ReadsBack)
    (hy : url.stored? c = some y) : ∃ x, url.stored? b = some x ∧ (x == y) = true := by
  have self : (y == y) = true := Value.beq_self (isNumberOrOther_of_stored? hy nofun nofun)
  obtain rfl | ⟨i, rfl, rfl, rfl⟩ | ⟨text, rfl, read⟩ | ⟨rfl, rfl, -⟩ := stored?_cases h
  · exact ⟨y, hy, self⟩
  · cases hy
  · obtain rfl | ⟨_, rfl, rfl, -⟩ | ⟨_, rfl, rfl, -⟩ | ⟨_, rfl, rfl, -⟩ | ⟨_, rfl, rfl, -⟩ :=
      read?_cases read
    · exact ⟨y, hy, self⟩
    case inr.inr.inr.inr => exact ⟨_, h, Option.some.inj hy ▸ self⟩
    all_goals cases hy
  · rw [stored?_eq_read?] at hy
    obtain rfl | ⟨_, hf, -⟩ | ⟨_, hf, -⟩ | ⟨_, hf, -⟩ | ⟨u, -, rfl, colon⟩ := read?_cases hy
    · cases owns_of_read? hy
    case inr.inr.inr.inr =>
      obtain ⟨v, rfl⟩ | ⟨text, rfl⟩ := url_of_colon_mem colon
      · obtain ⟨z, hz, alike⟩ := read?_text (fun _ => "") (t := .url) (by decide) rfl hb
        cases hz.symm.trans hy
        refine ⟨.url v, rfl, (Value.beq_comm _ _).trans ?_⟩
        exact alike.resolve_right fun h => nomatch h.1
      · exact ⟨_, (stored?_eq_read? ..).trans hy, self⟩
    all_goals cases hf

/-- Null is stored for itself only. -/
theorem eq_null_of_stored? (h : s.stored? b = some .null) : b = .null := by
  obtain hb | ⟨i, -, -, hc⟩ | ⟨text, -, hc⟩ | ⟨-, hc, -⟩ := stored?_cases h
  · exact hb.symm
  · cases hc
  · obtain hc | ⟨_, -, hc, -⟩ | ⟨_, -, hc, -⟩ | ⟨_, -, hc, -⟩ | ⟨_, -, hc, -⟩ := read?_cases hc
    all_goals cases hc
  · cases hc

end ValueType

/-! ## Whole numbers -/

namespace Value

variable {types : ValueType → Prop} {a b c : Value} {s t : ValueType} {i : Int64} {x : Binary64}

/-- The whole number that a value is, or that its text is read as. -/
def whole? : Value → Option Int64
  | .int i => some i
  | .float x => readInt64? x.toText.toList
  | .string s => readInt64? (trimChars s.toList)
  | _ => none

theorem whole?_text (h : readInt64? (trimChars (b.text fun _ => "").toList) = some i) :
    b.whole? = some i := by
  obtain ⟨x, hx, -⟩ := Binary64.ofText?_of_readInt64? h
  obtain ⟨j, rfl, -⟩ | ⟨z, rfl, -⟩ | ⟨text, rfl⟩ := ValueType.number_of_ofText? hx
  · change readInt64? (trimChars (writeInt64 j).toList) = some i at h
    rwa [trimChars_eq_self.2 (visible_writeInt64 j).isTrimmed, readInt64?_writeInt64] at h
  · change readInt64? (trimChars z.toText.toList) = some i at h
    rwa [trimChars_eq_self.2 (Binary64.visible_toText z).isTrimmed] at h
  · exact h

/-- Only slots for floating point numbers make another whole number of one. -/
theorem whole?_of_stored? (hs : s ≠ .float) (h : s.stored? b = some c) (hc : c.whole? = some i) :
    b.whole? = some i := by
  obtain rfl | ⟨_, hf, -⟩ | ⟨text, rfl, read⟩ | ⟨rfl, rfl, -⟩ := ValueType.stored?_cases h
  · exact hc
  · exact absurd hf hs
  · obtain rfl | ⟨_, -, rfl, -⟩ | ⟨j, -, rfl, hj⟩ | ⟨_, hf, -⟩ | ⟨_, -, rfl, -⟩ :=
      ValueType.read?_cases read
    · exact hc
    · cases hc
    · exact hj.trans hc
    · exact absurd hf hs
    · cases hc
  · exact whole?_text hc

/-- A slot for whole numbers stores null for null, and the whole number for all others. -/
theorem int_stored?_cases (h : ValueType.int.stored? b = some c) :
    b = .null ∧ c = .null ∨ ∃ i, c = .int i ∧ b.whole? = some i := by
  cases b with
  | null => exact .inl ⟨rfl, (Option.some.inj h).symm⟩
  | int i => exact .inr ⟨i, (Option.some.inj h).symm, rfl⟩
  | string text =>
    obtain ⟨i, hi, rfl⟩ := Option.map_eq_some_iff.1 ((ValueType.stored?_eq_read? ..).symm.trans h)
    exact .inr ⟨i, rfl, hi⟩
  | _ => cases h

end Value

end Bxml
