import Bxml.Proofs.Text.Blank
import Bxml.Text.Decimal
import Mathlib.Data.List.Basic

/-!
# Visible text

What is written for numbers and URLs consists of visible ASCII characters, none of which is white
space.

`Visible` has closure lemmas for the ways in which texts are put together, so that a writer needs
one line for each of its parts; `EndsVisible` is the weaker property that is enough for trimming at
the end.  `VisibleChar.induction` proves what can be looked up for each of these characters.
-/

namespace Bxml.Text

/-- Whether a character is one of ASCII that can be seen. -/
def VisibleChar (c : Char) : Prop := 0x20 < c.toNat ∧ c.toNat < 0x7F

instance (c : Char) : Decidable (VisibleChar c) := inferInstanceAs (Decidable (_ ∧ _))

/-- Whether all characters of a text are visible. -/
def Visible (l : List Char) : Prop := ∀ c ∈ l, VisibleChar c

instance (l : List Char) : Decidable (Visible l) := List.decidableBAll _ l

variable {c : Char} {l l' : List Char}

theorem VisibleChar.isBlank (h : VisibleChar c) : Text.isBlank c = false := by
  obtain ⟨h₁, h₂⟩ := h
  unfold Text.isBlank
  simp
  omega

/-- What holds of the visible characters can be looked up. -/
theorem VisibleChar.induction {P : Char → Prop}
    (h : ∀ n < 127, VisibleChar (Char.ofNat n) → P (Char.ofNat n)) (hc : VisibleChar c) : P c := by
  have all := h c.toNat hc.2
  rw [Char.ofNat_toNat] at all
  exact all hc

theorem VisibleChar.toLower (h : VisibleChar c) : VisibleChar c.toLower :=
  h.induction (P := fun c => VisibleChar c.toLower) (by decide +kernel)

theorem visibleChar_of_isAlphanum (h : c.isAlphanum = true) : VisibleChar c := by
  change ((decide (65 ≤ c.val ∧ c.val ≤ 90) || (decide (97 ≤ c.val) && decide (c.val ≤ 122))) ||
    (decide (48 ≤ c.val) && decide (c.val ≤ 57))) = true at h
  simp only [Bool.or_eq_true, Bool.and_eq_true, decide_eq_true_eq, UInt32.le_iff_toNat_le] at h
  change ((65 ≤ c.toNat ∧ c.toNat ≤ 90) ∨ 97 ≤ c.toNat ∧ c.toNat ≤ 122) ∨
    48 ≤ c.toNat ∧ c.toNat ≤ 57 at h
  unfold VisibleChar
  omega

theorem visibleChar_digitChar (n : Nat) : VisibleChar (Nat.digitChar n) := by
  rcases Nat.lt_or_ge n 16 with h | h
  · exact (by decide : ∀ n < 16, VisibleChar (Nat.digitChar n)) n h
  · have other : Nat.digitChar n = '*' := by
      unfold Nat.digitChar
      repeat rw [if_neg (by omega)]
    rw [other]
    decide

theorem forall_mem_intersperse {α : Type} {P : α → Prop} {as : List α} {sep : α} (hs : P sep)
    (h : ∀ a ∈ as, P a) : ∀ a ∈ as.intersperse sep, P a := by
  induction as with
  | nil => exact List.forall_mem_nil _
  | cons a as ih =>
    rw [List.forall_mem_cons] at h
    cases as with
    | nil => exact List.forall_mem_singleton.2 h.1
    | cons b as =>
      rw [List.intersperse_cons_cons]
      exact List.forall_mem_cons.2 ⟨h.1, List.forall_mem_cons.2 ⟨hs, ih h.2⟩⟩

namespace Visible

theorem nil : Visible [] := List.forall_mem_nil _

theorem cons (hc : VisibleChar c) (hl : Visible l) : Visible (c :: l) :=
  List.forall_mem_cons.2 ⟨hc, hl⟩

theorem append (hl : Visible l) (hl' : Visible l') : Visible (l ++ l') :=
  List.forall_mem_append.2 ⟨hl, hl'⟩

theorem mono (hl : Visible l) (h : l' ⊆ l) : Visible l' := fun c hc => hl c (h hc)

theorem reverse (hl : Visible l) : Visible l.reverse := hl.mono fun _ => List.mem_reverse.1

theorem ite {p : Prop} [Decidable p] (hl : Visible l) (hl' : Visible l') :
    Visible (if p then l else l') := by
  split
  · exact hl
  · exact hl'

theorem flatten {ls : List (List Char)} (h : ∀ l ∈ ls, Visible l) : Visible ls.flatten := by
  intro c hc
  obtain ⟨l, hl, hc⟩ := List.mem_flatten.1 hc
  exact h l hl c hc

theorem isTrimmed (h : Visible l) : IsTrimmed l :=
  isTrimmed_of_forall fun c hc => (h c hc).isBlank

end Visible

theorem visible_toDigits (b n : Nat) : Visible (Nat.toDigits b n) := by
  have core (fuel n : Nat) (ds : List Char) (hd : Visible ds) :
      Visible (Nat.toDigitsCore b fuel n ds) := by
    induction fuel generalizing n ds with
    | zero => exact hd
    | succ fuel ih =>
      unfold Nat.toDigitsCore
      dsimp only
      have hd := hd.cons (visibleChar_digitChar (n % b))
      split
      · exact hd
      · exact ih _ _ hd
  exact core _ n [] .nil

theorem visible_writeInt (i : Int) : Visible (writeInt i) := by
  cases i with
  | ofNat n => exact visible_toDigits 10 n
  | negSucc n => exact .cons (by decide) (visible_toDigits 10 (n + 1))

/-- Whether a text is visible at its end. -/
def EndsVisible (l : List Char) : Prop := ∀ c, l.getLast? = some c → VisibleChar c

theorem Visible.endsVisible (h : Visible l) : EndsVisible l := fun c hc =>
  h c (List.mem_of_getLast? hc)

/-- What has something visible at its end ends so. -/
theorem EndsVisible.append (hl : EndsVisible l) (hl' : EndsVisible l') : EndsVisible (l ++ l') := by
  intro c hc
  rw [List.getLast?_append, Option.or_eq_some_iff] at hc
  rcases hc with hc | ⟨-, hc⟩
  · exact hl' c hc
  · exact hl c hc

theorem EndsVisible.append_cons (hl : EndsVisible (c :: l')) : EndsVisible (l ++ c :: l') := by
  intro d hd
  rw [List.getLast?_append, Option.or_eq_some_iff] at hd
  rcases hd with hd | ⟨hn, -⟩
  · exact hl d hd
  · simp at hn

end Bxml.Text
