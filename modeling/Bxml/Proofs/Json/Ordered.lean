import Bxml.Json.Parser
import Mathlib.Data.String.Basic

/-!
# Objects with sorted fields

Wherever an object stands in a JSON value, its fields are sorted by name and no name comes twice.
Every value that is read from a text is like that, whatever order the text has.

* `IsOrdered` is this invariant, as an inductive predicate.  `IsOrdered.ofFields` says that objects
  have it however they are built, and `isOrdered_of_parse` that every value that is read has it: one
  lemma for each reader, the mutual ones together by induction on the fuel.
* `eq_of_get?_eq` is what it is for: sorted fields are known from what `Fields.get?` finds, so that
  laws of overlays are proved name by name (`Json/Precedence.lean`).
-/

namespace Bxml

/-- A sequence succeeds if both its parts do. -/
theorem except_bind_eq_ok {ε α β : Type} {x : Except ε α} {f : α → Except ε β} {b : β} :
    (x >>= f) = .ok b ↔ ∃ a, x = .ok a ∧ f a = .ok b := by
  cases x with
  | error e => exact ⟨fun h => (nomatch h), fun ⟨_, h, _⟩ => (nomatch h)⟩
  | ok a => exact ⟨fun h => ⟨a, rfl, h⟩, fun ⟨_, h, k⟩ => Except.ok.inj h ▸ k⟩

namespace Json

/-- At every depth, the fields of an object are in the order of their names. -/
inductive IsOrdered : Json → Prop
  | null : IsOrdered .null
  | bool (b : Bool) : IsOrdered (.bool b)
  | int (i : Int64) : IsOrdered (.int i)
  | float (x : Binary64) : IsOrdered (.float x)
  | string (s : String) : IsOrdered (.string s)
  | array {items : List Json} (each : ∀ j ∈ items, IsOrdered j) : IsOrdered (.array items)
  | object {fs : List (String × Json)} (sorted : fs.Pairwise fun p q => p.1 < q.1)
      (each : ∀ p ∈ fs, IsOrdered p.2) : IsOrdered (.object fs)

namespace Fields

variable {fs : Fields} {k : String} {v : Json}

@[simp] theorem get?_nil : get? [] k = none := rfl

theorem get?_cons (q : String) (x : Json) (r : Fields) :
    get? ((q, x) :: r) k = if k = q then some x else get? r k := by
  by_cases h : k = q
  · simp [get?, h]
  · simp [get?, List.lookup_cons, h, beq_eq_false_iff_ne.2 h]

theorem mem_of_get? (h : get? fs k = some v) : (k, v) ∈ fs := by
  induction fs with
  | nil => simp at h
  | cons p r ih =>
    rw [get?_cons] at h
    split at h
    · next hk => obtain rfl := Option.some.inj h; exact hk ▸ List.mem_cons_self
    · exact List.mem_cons_of_mem _ (ih h)

theorem get?_eq_none_of_forall_ne (h : ∀ p ∈ fs, p.1 ≠ k) : get? fs k = none := by
  induction fs with
  | nil => rfl
  | cons p r ih =>
    rw [get?_cons, if_neg fun e => h p List.mem_cons_self e.symm]
    exact ih fun q hq => h q (List.mem_cons_of_mem _ hq)

/-- A stored field is the new one or an old one. -/
theorem mem_insert {p : String × Json} (h : p ∈ insert k v fs) : p = (k, v) ∨ p ∈ fs := by
  induction fs with
  | nil => exact .inl (List.mem_singleton.1 h)
  | cons q r ih =>
    simp only [insert] at h
    split at h
    · exact (List.mem_cons.1 h).imp_right (List.mem_cons_of_mem _)
    split at h
    · exact List.mem_cons.1 h
    · obtain rfl | h := List.mem_cons.1 h
      · exact .inr List.mem_cons_self
      · exact (ih h).imp_right (List.mem_cons_of_mem _)

theorem sorted_insert (h : fs.Pairwise fun p q => p.1 < q.1) :
    (insert k v fs).Pairwise fun p q => p.1 < q.1 := by
  induction fs with
  | nil => exact List.pairwise_singleton _ _
  | cons q r ih =>
    obtain ⟨before, rest⟩ := List.pairwise_cons.1 h
    simp only [insert]
    split
    · next hk => exact List.pairwise_cons.2 ⟨fun p hp => hk ▸ before p hp, rest⟩
    split
    · next hlt =>
      refine List.pairwise_cons.2 ⟨fun p hp => ?_, h⟩
      obtain rfl | hp := List.mem_cons.1 hp
      · exact hlt
      · exact String.lt_trans hlt (before p hp)
    · next hne hlt =>
      refine List.pairwise_cons.2 ⟨fun p hp => ?_, ih rest⟩
      obtain rfl | hp := mem_insert hp
      · by_contra hge
        exact hne (String.le_antisymm (String.not_lt.1 hge) (String.not_lt.1 hlt))
      · exact before p hp

theorem get?_insert (k : String) (v : Json) (fs : Fields) (q : String) :
    get? (insert k v fs) q = if q = k then some v else get? fs q := by
  induction fs with
  | nil => exact get?_cons ..
  | cons p r ih =>
    obtain ⟨j, x⟩ := p
    simp only [insert]
    by_cases hj : k = j
    · subst hj
      rw [if_pos rfl, get?_cons, get?_cons]
      by_cases hq : q = k <;> simp [hq]
    · rw [if_neg hj]
      by_cases hlt : k < j
      · rw [if_pos hlt, get?_cons]
      · rw [if_neg hlt, get?_cons, ih, get?_cons]
        by_cases hq : q = k
        · simp [hq, hj]
        · simp [hq]

/-- Where each name has one value, it makes no difference how often it is stored. -/
theorem get?_foldl_insert (f : String → Json) (names : List String) (fs : Fields) (k : String) :
    get? ((names.map fun name => (name, f name)).foldl (fun fs p => insert p.1 p.2 fs) fs) k =
      if k ∈ names then some (f k) else get? fs k := by
  induction names generalizing fs with
  | nil => rfl
  | cons name r ih =>
    rw [List.map_cons, List.foldl_cons, ih, get?_insert]
    by_cases hk : k = name
    · simp [hk]
    · simp [hk]

theorem sorted_ofList (l : List (String × Json)) : (ofList l).Pairwise fun p q => p.1 < q.1 := by
  have fold (fs : Fields) (h : fs.Pairwise fun p q => p.1 < q.1) :
      (l.foldl (fun fs p => insert p.1 p.2 fs) fs).Pairwise fun p q => p.1 < q.1 := by
    induction l generalizing fs with
    | nil => exact h
    | cons p r ih => exact ih _ (sorted_insert h)
  exact fold [] .nil

/-- Sorted fields are known from the values under the names. -/
theorem eq_of_get?_eq {gs : Fields} (hf : fs.Pairwise fun p q => p.1 < q.1)
    (hg : gs.Pairwise fun p q => p.1 < q.1) (h : ∀ k, get? fs k = get? gs k) : fs = gs := by
  have first {k : String} {v : Json} {r : Fields} (hr : ((k, v) :: r).Pairwise fun p q => p.1 < q.1)
      {q : String} (hq : (get? ((k, v) :: r) q).isSome) : k ≤ q := by
    obtain ⟨x, hx⟩ := Option.isSome_iff_exists.1 hq
    rcases List.mem_cons.1 (mem_of_get? hx) with he | hm
    · obtain ⟨rfl, -⟩ := Prod.mk.inj he
      exact String.le_refl _
    · exact String.not_lt.1 (String.lt_asymm ((List.pairwise_cons.1 hr).1 _ hm))
  induction fs generalizing gs with
  | nil =>
    cases gs with
    | nil => rfl
    | cons p r =>
      obtain ⟨k, v⟩ := p
      simpa [get?_cons] using h k
  | cons p r ih =>
    obtain ⟨k, v⟩ := p
    cases gs with
    | nil => simpa [get?_cons] using h k
    | cons p' r' =>
      obtain ⟨k', v'⟩ := p'
      obtain rfl : k = k' := by
        refine String.le_antisymm (first hf ?_) (first hg ?_)
        · rw [h, get?_cons, if_pos rfl]
          rfl
        · rw [← h, get?_cons, if_pos rfl]
          rfl
      have same : v = v' := by simpa [get?_cons] using h k
      have none_of {r : Fields} (hr : ∀ p ∈ r, k < p.1) : get? r k = none :=
        get?_eq_none_of_forall_ne fun p hp e => String.lt_irrefl _ (e ▸ hr p hp)
      obtain ⟨before, hf⟩ := List.pairwise_cons.1 hf
      obtain ⟨before', hg⟩ := List.pairwise_cons.1 hg
      rw [same, ih hf hg fun q => ?_]
      by_cases hq : q = k
      · rw [hq, none_of before, none_of before']
      · simpa [get?_cons, hq] using h q

end Fields

namespace IsOrdered

variable {fs : Fields} {k : String} {v : Json}

theorem sorted (h : (Json.object fs).IsOrdered) : fs.Pairwise fun p q => p.1 < q.1 := by
  cases h with
  | object sorted _ => exact sorted

theorem each (h : (Json.object fs).IsOrdered) : ∀ p ∈ fs, p.2.IsOrdered := by
  cases h with
  | object _ each => exact each

theorem tail {p : String × Json} (h : (Json.object (p :: fs)).IsOrdered) :
    (Json.object fs).IsOrdered :=
  .object h.sorted.of_cons fun q hq => h.each q (List.mem_cons_of_mem _ hq)

theorem of_get? (h : (Json.object fs).IsOrdered) (hv : Fields.get? fs k = some v) :
    v.IsOrdered :=
  h.each _ (Fields.mem_of_get? hv)

/-- The name of the first field does not come again. -/
theorem get?_tail_head (h : (Json.object ((k, v) :: fs)).IsOrdered) : Fields.get? fs k = none :=
  Fields.get?_eq_none_of_forall_ne fun p hp e =>
    String.lt_irrefl _ (e ▸ (List.pairwise_cons.1 h.sorted).1 p hp)

theorem insert (h : (Json.object fs).IsOrdered) (hv : v.IsOrdered) :
    (Json.object (Fields.insert k v fs)).IsOrdered := by
  refine .object (Fields.sorted_insert h.sorted) fun p hp => ?_
  obtain rfl | hp := Fields.mem_insert hp
  · exact hv
  · exact h.each p hp

/-- An object is sorted when it is built, whatever order its fields come in. -/
theorem ofFields {l : List (String × Json)} (h : ∀ p ∈ l, p.2.IsOrdered) :
    (Json.ofFields l).IsOrdered := by
  have fold (fs : Fields) (hfs : (Json.object fs).IsOrdered) :
      (Json.object (l.foldl (fun fs p => Fields.insert p.1 p.2 fs) fs)).IsOrdered := by
    induction l generalizing fs with
    | nil => exact hfs
    | cons p r ih =>
      exact ih (fun q hq => h q (List.mem_cons_of_mem _ hq)) _
        (hfs.insert (h p List.mem_cons_self))
  exact fold [] (.object .nil (by simp))

end IsOrdered

/-! ### Reading -/

section Reading

variable {c c' : Cursor} {v : Json}

theorem isOrdered_readWord {w : Json} {l : List Char} (hw : w.IsOrdered)
    (h : readWord w l c = .ok (v, c')) : v.IsOrdered := by
  induction l generalizing c with
  | nil => cases h; exact hw
  | cons e es ih =>
    simp only [readWord] at h
    split at h
    · cases h
    · split at h
      · exact ih h
      · cases h

theorem isOrdered_scaleDigits {negative : Bool} {fuel : Nat} {x : Binary64} {e : Int}
    (h : scaleDigits c negative fuel x e = .ok (v, c')) : v.IsOrdered := by
  induction fuel generalizing x e with
  | zero => cases h; exact .float _
  | succ n ih =>
    simp only [scaleDigits] at h
    repeat' split at h
    all_goals first
      | exact ih h
      | (cases h; exact .float _)
      | cases h

theorem isOrdered_readExponent {negative : Bool} {s : Nat} {start : Int}
    (h : readExponent c negative s start = .ok (v, c')) : v.IsOrdered := by
  simp only [readExponent, numberOfParts] at h
  repeat' split at h
  all_goals first
    | exact isOrdered_scaleDigits h
    | (cases h; exact .float _)
    | cases h

theorem isOrdered_readTail {negative : Bool} {s : Nat} {e : Int}
    (h : readTail c negative s e = .ok (v, c')) : v.IsOrdered := by
  simp only [readTail, numberOfParts] at h
  repeat' split at h
  all_goals first
    | exact isOrdered_readExponent h
    | exact isOrdered_scaleDigits h

theorem isOrdered_readFraction {negative : Bool} {s : Nat} {start : Int}
    (h : readFraction c negative s start = .ok (v, c')) : v.IsOrdered := by
  simp only [readFraction] at h
  repeat' split at h
  all_goals first
    | exact isOrdered_readTail h
    | cases h

theorem isOrdered_whole {negative : Bool} {s n : Nat}
    (h : readNumber.whole negative c s n = .ok (v, c')) : v.IsOrdered := by
  simp only [readNumber.whole, numberOfParts] at h
  repeat' split at h
  all_goals first
    | exact isOrdered_scaleDigits h
    | (cases h; exact .float _)
    | (cases h; exact .int _)

theorem isOrdered_readNumber {negative : Bool}
    (h : readNumber c negative = .ok (v, c')) : v.IsOrdered := by
  simp only [readNumber] at h
  repeat' split at h
  all_goals first
    | exact isOrdered_readFraction h
    | exact isOrdered_readExponent h
    | exact isOrdered_whole h
    | cases h

section Nested

variable {item : Cursor → Reading (Json × Cursor)}

theorem isOrdered_readItem (ordered : ∀ {c v c'}, item c = .ok (v, c') → v.IsOrdered)
    {rest : Cursor → Reading (List Json × Cursor)} {vs : List Json}
    (others : ∀ {c vs c'}, rest c = .ok (vs, c') → ∀ v ∈ vs, v.IsOrdered)
    (h : readItem item rest c = .ok (vs, c')) : ∀ v ∈ vs, v.IsOrdered := by
  obtain ⟨⟨v, c₁⟩, hv, h⟩ := except_bind_eq_ok.1 h
  obtain ⟨⟨r, c₂⟩, hr, h⟩ := except_bind_eq_ok.1 h
  cases h
  exact List.forall_mem_cons.2 ⟨ordered hv, others hr⟩

theorem isOrdered_readItems (ordered : ∀ {c v c'}, item c = .ok (v, c') → v.IsOrdered) {n : Nat}
    {first : Bool} {vs : List Json} (h : readItems item n first c = .ok (vs, c')) :
    ∀ v ∈ vs, v.IsOrdered := by
  induction n generalizing first c vs c' with
  | zero => cases h
  | succ n ih =>
    simp only [readItems] at h
    repeat' split at h
    all_goals first
      | exact isOrdered_readItem ordered ih h
      | (cases h; simp)
      | cases h

theorem isOrdered_readField (ordered : ∀ {c v c'}, item c = .ok (v, c') → v.IsOrdered)
    {rest : Cursor → Reading (List (String × Json) × Cursor)} {fs : List (String × Json)}
    (others : ∀ {c fs c'}, rest c = .ok (fs, c') → ∀ p ∈ fs, p.2.IsOrdered)
    (h : readField item rest c = .ok (fs, c')) : ∀ p ∈ fs, p.2.IsOrdered := by
  unfold readField at h
  split at h
  · cases h
  split at h
  · cases h
  obtain ⟨⟨k, c₁⟩, -, h⟩ := except_bind_eq_ok.1 h
  dsimp only at h
  split at h
  · cases h
  split at h
  · cases h
  obtain ⟨⟨v, c₂⟩, hv, h⟩ := except_bind_eq_ok.1 h
  obtain ⟨⟨r, c₃⟩, hr, h⟩ := except_bind_eq_ok.1 h
  cases h
  exact List.forall_mem_cons.2 ⟨ordered hv, others hr⟩

theorem isOrdered_readFields (ordered : ∀ {c v c'}, item c = .ok (v, c') → v.IsOrdered) {n : Nat}
    {first : Bool} {fs : List (String × Json)} (h : readFields item n first c = .ok (fs, c')) :
    ∀ p ∈ fs, p.2.IsOrdered := by
  induction n generalizing first c fs c' with
  | zero => cases h
  | succ n ih =>
    simp only [readFields] at h
    repeat' split at h
    all_goals first
      | exact isOrdered_readField ordered ih h
      | (cases h; simp)
      | cases h

end Nested

/-- Every value that is read is ordered: what stands in an array or an object has been read
before, and an object is sorted when it is built. -/
theorem isOrdered_readValue {depth : Nat} (h : readValue depth c = .ok (v, c')) :
    v.IsOrdered := by
  induction depth generalizing c v c' with
  | zero => cases h
  | succ n ih =>
    simp only [readValue] at h
    split at h
    · cases h
    -- one case for each byte that a value may start with
    split at h
    · exact isOrdered_readWord .null h
    split at h
    · exact isOrdered_readWord (.bool true) h
    split at h
    · exact isOrdered_readWord (.bool false) h
    split at h
    · exact isOrdered_readNumber h
    split at h
    · exact isOrdered_readNumber h
    split at h
    · obtain ⟨⟨s, c₁⟩, -, h⟩ := except_bind_eq_ok.1 h
      cases h
      exact .string s
    split at h
    · split at h
      · cases h
      obtain ⟨⟨vs, c₁⟩, hvs, h⟩ := except_bind_eq_ok.1 h
      cases h
      exact .array (isOrdered_readItems ih hvs)
    split at h
    · split at h
      · cases h
      obtain ⟨⟨fs, c₁⟩, hfs, h⟩ := except_bind_eq_ok.1 h
      cases h
      exact .ofFields (isOrdered_readFields ih hfs)
    · cases h

/-- What is read from a text is ordered. -/
theorem isOrdered_of_parse {bytes : List UInt8} {j : Json} (h : parse bytes = .ok j) :
    j.IsOrdered := by
  obtain ⟨⟨v, c⟩, hv, h⟩ := except_bind_eq_ok.1 h
  dsimp only at h
  split at h
  · cases h
    exact isOrdered_readValue hv
  · cases h

end Reading

end Json

end Bxml
