import Bxml.Proofs.Load.Portable
import Bxml.Proofs.Text.Blank

/-!
# What attribute values stand for

Every text can be written as the value of an attribute, and stands for itself wherever it is written.
A value is bound later if and only if it is some text between the marks of a binding that is not all
white space, and the expression is that text without the white space around it.

`resolveAttribute_of_escape_and_binding` says both.  The marks of a binding are tried first, so
there is a lemma for what they enclose (`bindingText?_eq_some`) and one for what a value without
them is not (`readPlain_ne_binding`); trimming has one outcome only, by `Text/Blank.lean`.
-/

namespace Bxml

namespace AttributeForm

variable {raw : String} {l inside : List Char} {expression : String}

/-- The text between the marks of a binding is all there is between them. -/
theorem bindingText?_eq_some : bindingText? l = some inside ↔
    l = [referenceSentinel, bindingOpen] ++ inside ++ [bindingClose] := by
  unfold bindingText?
  split
  · next s o r =>
    constructor
    · intro h
      obtain ⟨⟨rfl, rfl, hr⟩, hi⟩ := Option.ite_none_right_eq_some.1 h
      obtain ⟨front, rfl⟩ := List.getLast?_eq_some_iff.1 hr
      simpa using hi
    · intro h
      obtain ⟨rfl, rfl, rfl⟩ : s = referenceSentinel ∧ o = bindingOpen ∧
          r = inside ++ [bindingClose] := by simpa using h
      simp
  · next h =>
    constructor
    · exact nofun
    · intro hl
      exact absurd hl (h _ _ _)

/-- A value without the marks of a binding is not bound. -/
theorem readPlain_ne_binding (l : List Char) : readPlain l ≠ .ok (.binding expression) := by
  have after (c : Char) (fault : StructureFault) (form : List Char → AttributeForm)
      (hf : ∀ p, form p ≠ .binding expression) (r : List Char) :
      readAfter c fault form r ≠ .ok (.binding expression) := by
    unfold readAfter
    cases r with
    | nil => exact nofun
    | cons d r =>
      dsimp only
      split
      · exact nofun
      · exact fun h => hf _ (Except.ok.inj h)
  have reference (p : List Char) : ofReference p ≠ .binding expression := by
    unfold ofReference
    split <;> exact nofun
  unfold readPlain
  cases l with
  | nil => exact nofun
  | cons c r =>
    dsimp only
    split
    · exact after _ _ (fun p => .location (String.ofList p)) (fun _ => nofun) r
    · split
      · exact after _ _ (fun p => .resource (String.ofList p)) (fun _ => nofun) r
      · split
        · exact after _ _ ofReference reference r
        · exact nofun

/-- A value is bound if something is left of the text between the marks of a binding. -/
theorem read_eq_binding : read raw = .ok (.binding expression) ↔
    ∃ inside, raw.toList = [referenceSentinel, bindingOpen] ++ inside ++ [bindingClose] ∧
      (∃ c ∈ inside, Text.isBlank c = false) ∧ Text.Trims inside expression.toList := by
  unfold read
  cases hb : bindingText? raw.toList with
  | none =>
    refine ⟨fun h => (readPlain_ne_binding _ h).elim, ?_⟩
    rintro ⟨inside, hi, -⟩
    rw [bindingText?_eq_some.2 hi] at hb
    cases hb
  | some inside =>
    have hi := bindingText?_eq_some.1 hb
    have trims := Text.trims_trimChars inside
    dsimp only
    constructor
    · intro h
      have left : Text.trimChars inside ≠ [] := by
        intro hn
        rw [hn] at h
        cases h
      obtain ⟨c, r, hc⟩ := List.exists_cons_of_ne_nil left
      simp only [hc] at h
      cases h
      rw [String.toList_ofList, ← hc]
      exact ⟨inside, hi, trims.ne_nil_iff.1 left, trims⟩
    · rintro ⟨other, ho, visible, ht⟩
      obtain rfl : inside = other := by simpa using hi.symm.trans ho
      rw [Text.trimChars_eq_iff.2 ht]
      obtain ⟨c, r, hc⟩ := List.exists_cons_of_ne_nil (ht.ne_nil_iff.2 visible)
      rw [hc]
      dsimp only
      rw [← hc, String.ofList_toList]

end AttributeForm

namespace DocumentContext

open AttributeForm

variable (c : DocumentContext) (at_ : Location) (w : World)

/-- An attribute is bound later if its value says so. -/
theorem resolveAttribute_of_binding {raw expression : String}
    (h : read raw = .ok (.binding expression)) :
    (c.resolveAttribute raw at_).runIn w = (.ok (.binding expression), w) := by
  unfold resolveAttribute
  rw [h]
  rfl

/-- In every document, and wherever in it, the value that stands for a text is resolved to that text
whatever the text is, and a value is a binding exactly if it is written as one: as a text between
`${` and `}` that is not all white space. The expression is that text, trimmed. -/
theorem resolveAttribute_of_escape_and_binding :
    (∀ s, (c.resolveAttribute (escape s) at_).runIn w = (.ok (.resolved (.string s)), w)) ∧
      ∀ raw expression,
        (∃ v, (c.resolveAttribute raw at_).runIn w = (.ok (.binding expression), v)) ↔
          ∃ inside, raw.toList = ['$', '\x7b'] ++ inside ++ ['\x7d'] ∧
            (∃ x ∈ inside, Text.isBlank x = false) ∧ Text.Trims inside expression.toList := by
  refine ⟨fun s => ?_, fun raw expression => ?_⟩
  · unfold resolveAttribute
    rw [read_escape]
    rfl
  · constructor
    · rintro ⟨v, h⟩
      exact read_eq_binding.1 (resolveAttribute_eq_binding h)
    · intro h
      exact ⟨w, resolveAttribute_of_binding c at_ w (read_eq_binding.2 h)⟩

end DocumentContext

end Bxml
