import Bxml.Text.Blank
import Mathlib.Data.List.TakeWhile

/-!
# What is left of a text without the white space around it

Trimming takes a text apart into white space, a middle that neither starts nor ends in white space,
and white space again.  There is only one such middle: `trimChars_eq_iff`.

`IsTrimmed` and `Trims` say what a middle is, as relations beside the function; `trims_trimChars`
says that the function gives one.  `trimChars_eq_self` is for the texts of numbers and URLs, in
which there is no white space.
-/

namespace Bxml.Text

variable {l m front back : List Char} {c : Char}

/-- Whether a text neither starts nor ends in white space. -/
def IsTrimmed (l : List Char) : Prop :=
  (∀ c, l.head? = some c → isBlank c = false) ∧ ∀ c, l.getLast? = some c → isBlank c = false

/-- Whether `m` is `l` without the white space around it. -/
def Trims (l m : List Char) : Prop :=
  IsTrimmed m ∧ ∃ front back, l = front ++ m ++ back ∧
    (∀ c ∈ front, isBlank c = true) ∧ ∀ c ∈ back, isBlank c = true

/-- What is left of a text after a part of it is what does not belong to the part. -/
theorem drop_length_takeWhile (p : Char → Bool) (l : List Char) :
    l.drop (l.takeWhile p).length = l.dropWhile p := calc
  l.drop (l.takeWhile p).length
    = (l.takeWhile p ++ l.dropWhile p).drop (l.takeWhile p).length := by
      rw [List.takeWhile_append_dropWhile]
  _ = l.dropWhile p := List.drop_left

theorem dropWhile_eq_self (hl : ∀ c, l.head? = some c → isBlank c = false) :
    l.dropWhile isBlank = l := by
  cases l with
  | nil => rfl
  | cons c l => exact List.dropWhile_cons_of_neg (by simp [hl c rfl])

theorem exists_dropWhile (l : List Char) :
    ∃ front, l = front ++ l.dropWhile isBlank ∧ ∀ c ∈ front, isBlank c = true :=
  ⟨l.takeWhile isBlank, List.takeWhile_append_dropWhile.symm, fun _ hc => List.mem_takeWhile_imp hc⟩

/-- Trimming takes white space away at both ends and leaves none there. -/
theorem trims_trimChars (l : List Char) : Trims l (trimChars l) := by
  obtain ⟨front, hl, hf⟩ := exists_dropWhile l
  obtain ⟨back, hr, hb⟩ := exists_dropWhile (trimStart l).reverse
  have split : trimStart l = trimChars l ++ back.reverse := by
    rw [← (trimStart l).reverse_reverse, hr, List.reverse_append]
    rfl
  refine ⟨⟨fun c hc => ?_, fun c hc => isBlank_getLast?_trimEnd hc⟩, front, back.reverse, ?_, hf,
    fun c hc => hb c (List.mem_reverse.1 hc)⟩
  · have head : (trimStart l).head? = some c := by rw [split, List.head?_append, hc]; rfl
    exact head?_dropWhile_not isBlank l c head
  · rw [List.append_assoc, ← split]
    exact hl

/-- There is one way to trim a text. -/
theorem trimChars_eq_iff : trimChars l = m ↔ Trims l m := by
  refine ⟨fun h => h ▸ trims_trimChars l, ?_⟩
  rintro ⟨⟨head, last⟩, front, back, rfl, hf, hb⟩
  have blank : ∀ c ∈ back.reverse, isBlank c = true := fun c hc => hb c (List.mem_reverse.1 hc)
  have last' : ∀ c, m.reverse.head? = some c → isBlank c = false := fun c hc =>
    last c (by rwa [List.head?_reverse] at hc)
  unfold trimChars trimStart trimEnd
  rw [List.append_assoc, List.dropWhile_append_of_pos hf]
  cases m with
  | nil =>
    have nothing : back.dropWhile isBlank = [] := List.dropWhile_eq_nil_iff.2 hb
    rw [List.nil_append, nothing]
    rfl
  | cons c m =>
    have start : ((c :: m) ++ back).dropWhile isBlank = (c :: m) ++ back :=
      List.dropWhile_cons_of_neg (by simp [head c rfl])
    rw [start, List.reverse_append, List.dropWhile_append_of_pos blank, dropWhile_eq_self last',
      List.reverse_reverse]

theorem trimChars_eq_self : trimChars l = l ↔ IsTrimmed l := by
  rw [trimChars_eq_iff]
  exact ⟨And.left, fun h => ⟨h, [], [], by simp⟩⟩

/-- A text without any white space is trimmed. -/
theorem isTrimmed_of_forall (h : ∀ c ∈ l, isBlank c = false) : IsTrimmed l :=
  ⟨fun c hc => h c (List.mem_of_head? hc), fun c hc => h c (List.mem_of_getLast? hc)⟩

/-- Something is left of a text that is not all white space. -/
theorem Trims.ne_nil_iff (h : Trims l m) : m ≠ [] ↔ ∃ c ∈ l, isBlank c = false := by
  obtain ⟨⟨head, -⟩, front, back, rfl, hf, hb⟩ := h
  constructor
  · intro hm
    obtain ⟨c, m, rfl⟩ := List.exists_cons_of_ne_nil hm
    exact ⟨c, by simp, head c rfl⟩
  · rintro ⟨c, hc, blank⟩ rfl
    rcases List.mem_append.1 hc with hc | hc
    · exact absurd ((hf c (by simpa using hc)).symm.trans blank) (by decide)
    · exact absurd ((hb c hc).symm.trans blank) (by decide)

end Bxml.Text
