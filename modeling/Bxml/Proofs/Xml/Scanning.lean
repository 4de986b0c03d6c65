import Bxml.Proofs.Xml.Outline

/-!
# What a text is cut into

Each token that is read from a text moves the scanner forward, and opens or closes a tag if it is one.
So the tokens of a text start one after another, and no end tag among them closes what no start tag
among them opened.

`Scanner.Reads` lists what reading one token may do.  `pairwise_tokens` and `isNested_tokens` follow
from it by induction over a run; an empty element has its tag open until the scanner closes it.
-/

namespace Bxml.Xml

/-! ## Nested tags -/

/-- No end tag among some tokens ends an element that began before them. -/
def IsNested (ts : List Token) : Prop := depthAfter 0 ts ≠ none

instance (ts : List Token) : Decidable (IsNested ts) := inferInstanceAs (Decidable (_ ≠ none))

theorem IsNested.of_append {a b : List Token} (h : IsNested (a ++ b)) : IsNested a := fun none =>
  h (by rw [depthAfter_append, none]; rfl)

/-! ## Reading -/

namespace Scanner

variable {s s' : Scanner} {t : Token}

/-- What reading a token does to a scanner. An empty element is closed without reading on. -/
inductive Reads (s : Scanner) : Token → Scanner → Prop
  | emptied (h : s.closing = true) :
      Reads s .closeTag { s with closing := false, opened := s.opened.tail }
  | opened (inside taken : List Char) (empty : Bool) :
      Reads s (.openTag inside)
        { s.past taken with opened := tagName inside :: s.opened, closing := empty }
  | closed {name : List Char} {outer : List (List Char)} (taken : List Char)
      (open_ : s.closing = false) (h : s.opened = name :: outer) :
      Reads s .closeTag { s.past taken with opened := outer }
  | passed {t : Token} (taken : List Char) (h : ∀ n, t.levelAfter n = some n) :
      Reads s t (s.past taken)

theorem reads_of_scanBang (h : s.scanBang = .ok (some (t, s'))) : s.Reads t s' := by
  unfold scanBang at h
  dsimp only at h
  repeat' split at h
  all_goals cases h
  all_goals exact .passed _ fun _ => rfl

theorem reads_of_scanInstruction (h : s.scanInstruction = .ok (some (t, s'))) : s.Reads t s' := by
  unfold scanInstruction at h
  dsimp only at h
  split at h
  · cases h
  · split at h
    · cases h
    · cases h
      refine .passed _ fun _ => ?_
      split <;> rfl

theorem reads_of_scanClose (open_ : s.closing = false) (h : s.scanClose = .ok (some (t, s'))) :
    s.Reads t s' := by
  unfold scanClose at h
  dsimp only at h
  split at h
  · cases h
  · split at h
    · cases h
    · next opened =>
      -- a name of blanks alone is kept as it is
      repeat' split at h
      all_goals cases h
      all_goals exact .closed _ open_ opened

theorem reads_of_scanOpen (h : s.scanOpen = .ok (some (t, s'))) : s.Reads t s' := by
  unfold scanOpen at h
  split at h
  · cases h
  · cases h
    exact .opened _ _ _

theorem reads_of_scanReference (h : s.scanReference = .ok (some (t, s'))) : s.Reads t s' := by
  unfold scanReference at h
  dsimp only at h
  split at h
  · cases h
    exact .passed _ fun _ => rfl
  · cases h

theorem reads_of_next (h : s.next = .ok (some (t, s'))) : s.Reads t s' := by
  unfold next at h
  split at h
  · next closing =>
    cases h
    exact .emptied closing
  · next open_ =>
    split at h
    · cases h
    · exact reads_of_scanBang h
    · exact reads_of_scanInstruction h
    · exact reads_of_scanClose (Bool.eq_false_iff.2 open_) h
    · cases h
    · exact reads_of_scanOpen h
    · exact reads_of_scanReference h
    · cases h
      exact .passed _ fun _ => rfl

/-- The next token is not before the one that is read. -/
theorem Reads.offset_le (h : s.Reads t s') : s.offset ≤ s'.offset := by
  cases h with
  | emptied => exact Nat.le_refl _
  | opened => exact Nat.le_add_right _ _
  | closed => exact Nat.le_add_right _ _
  | passed => exact Nat.le_add_right _ _

/-- The open elements are those whose tags are open, as long as an empty element has its tag open
until it is closed. -/
theorem Reads.levelAfter (h : s.Reads t s') (hs : s.closing = true → s.opened ≠ []) :
    t.levelAfter s.opened.length = some s'.opened.length ∧
      (s'.closing = true → s'.opened ≠ []) := by
  cases h with
  | emptied closing =>
    have some := mt List.length_eq_zero_iff.1 (hs closing)
    exact ⟨(if_neg some).trans (congrArg _ List.length_tail.symm), nofun⟩
  | opened => exact ⟨rfl, fun _ => List.cons_ne_nil _ _⟩
  | closed taken open_ opened =>
    rw [opened]
    exact ⟨rfl, fun closing => absurd (closing.symm.trans open_) Bool.true_eq_false.mp⟩
  | passed taken same => exact ⟨same _, hs⟩

/-! ## Cutting a whole text -/

/-- Offsets of tokens do not decrease. -/
theorem pairwise_run (fuel : Nat) (s : Scanner) :
    (s.offset :: (run fuel s).1.map Prod.fst).Pairwise (· ≤ ·) := by
  induction fuel generalizing s with
  | zero => exact List.pairwise_singleton _ _
  | succ fuel ih =>
    rw [run]
    split
    · exact List.pairwise_singleton _ _
    · exact List.pairwise_singleton _ _
    · next t s' h =>
      obtain ⟨le, ordered⟩ := List.pairwise_cons.1 (ih s')
      have later : ∀ o ∈ s.offset :: (run fuel s').1.map Prod.fst, s.offset ≤ o := by
        rintro o ho
        rcases List.mem_cons.1 ho with rfl | ho
        · exact Nat.le_refl _
        · exact Nat.le_trans (reads_of_next h).offset_le (le o ho)
      have ordered' := List.pairwise_cons.2
        ⟨fun o ho => later o (List.mem_cons_of_mem _ ho), ordered⟩
      exact List.pairwise_cons.2 ⟨later, ordered'⟩

/-- The end tags that are read close open tags. -/
theorem depthAfter_run_ne_none (fuel : Nat) (s : Scanner)
    (hs : s.closing = true → s.opened ≠ []) :
    depthAfter s.opened.length ((run fuel s).1.map Prod.snd) ≠ none := by
  induction fuel generalizing s with
  | zero => exact nofun
  | succ fuel ih =>
    rw [run]
    split
    · exact nofun
    · exact nofun
    · next t s' h =>
      obtain ⟨level, hs'⟩ := (reads_of_next h).levelAfter hs
      rw [List.map_cons, depthAfter_cons, level]
      exact ih s' hs'

end Scanner

/-- The tokens of a text start one after another. -/
theorem pairwise_tokens (l : List Char) :
    ((tokens l).items.map Prod.fst).Pairwise (· ≤ ·) :=
  (List.pairwise_cons.1 (Scanner.pairwise_run (2 * l.length + 1) (Scanner.start l))).2

/-- The tags of a text are nested. -/
theorem isNested_tokens (l : List Char) : IsNested ((tokens l).items.map Prod.snd) :=
  Scanner.depthAfter_run_ne_none (2 * l.length + 1) (Scanner.start l) nofun

end Bxml.Xml
