import Bxml.Proofs.Xml.Lines
import Bxml.Proofs.Xml.Scanning

/-!
# Stretches of text

Markup divides the tokens of a document into stretches that stand for text. A document without a
fault reports its markup in order, every piece where its token starts, and before it the text of the
stretch that it ends, once and only if there is any. The text stands where the first token starts
that contributes to it.

* `stretchText` is the text of a stretch and `TextStart` the place where it starts.
* `Reported` is what a document reports, and `Pending.IsFor` the invariant of the reading: the text
  that is kept is that of the stretch so far.
* `reported_of_sound` is the result.  It asks nothing of the tokens but that they start one after
  another.
-/

namespace Bxml.Xml

/-! ## Descriptions -/

/-- The characters that the tokens of a stretch stand for. -/
def stretchText (l : List (Nat × Token)) : List Char := l.flatMap (·.2.characters)

theorem stretchText_append (l r : List (Nat × Token)) :
    stretchText (l ++ r) = stretchText l ++ stretchText r := List.flatMap_append

theorem stretchText_singleton (offset : Nat) (t : Token) :
    stretchText [(offset, t)] = t.characters := List.append_nil _

/-- The text of a stretch starts where its first token with characters does. -/
inductive TextStart : List (Nat × Token) → Nat → Prop
  | intro {before after : List (Nat × Token)} {offset : Nat} {t : Token}
      (silent : stretchText before = []) (h : t.characters ≠ []) :
      TextStart (before ++ (offset, t) :: after) offset

theorem TextStart.append {l : List (Nat × Token)} {offset : Nat} (h : TextStart l offset)
    (r : List (Nat × Token)) : TextStart (l ++ r) offset := by
  obtain ⟨silent, ht⟩ := h
  rw [List.append_assoc, List.cons_append]
  exact .intro silent ht

/-- What a stretch reports that ends at `seen`: nothing if it has no text, and otherwise all of its
text, where that starts. -/
inductive ReportsText (source : List UInt8) (seen : Location) (l : List (Nat × Token)) :
    List Located → Prop
  | silent (h : stretchText l = []) : ReportsText source seen l []
  | text {offset : Nat} (h : TextStart l offset) :
      ReportsText source seen l
        [⟨.characters (String.ofList (stretchText l)), .ofOffset source offset, seen⟩]

/-- What tokens report in the given scopes: for all markup the text of the stretch before it and
then itself, at its location, and nothing for the stretch at the end. -/
inductive Reported (source : List UInt8) : Scopes → List (Nat × Token) → List Located → Prop
  | rest {s : Scopes} {l : List (Nat × Token)} (plain : ∀ x ∈ l, x.2.isMarkup = false) :
      Reported source s l []
  | markup {s inner : Scopes} {l r : List (Nat × Token)} {offset : Nat} {t : Token} {e : Event}
      {text items : List Located} (plain : ∀ x ∈ l, x.2.isMarkup = false)
      (before : ReportsText source (.ofOffset source offset) l text)
      (reports : t.Reports s e inner) (after : Reported source inner r items) :
      Reported source s (l ++ (offset, t) :: r)
        (text ++ ⟨e, .ofOffset source offset, .ofOffset source offset⟩ :: items)

/-! ## Text that is still to be reported -/

/-- Text is pending for a stretch if it is the text of the stretch, found where that starts. -/
structure Pending.IsFor (p : Pending) (source : List UInt8) (l : List (Nat × Token)) : Prop where
  text : p.text = stretchText l
  location : p.text ≠ [] → ∃ offset, TextStart l offset ∧ p.location = .ofOffset source offset

section

variable {source : List UInt8} {l : List (Nat × Token)} {p : Pending}

theorem Pending.isFor_nil : Pending.none.IsFor source [] := ⟨rfl, nofun⟩

theorem Pending.IsFor.flush (h : p.IsFor source l) (seen : Location) :
    ReportsText source seen l (p.flush seen) := by
  by_cases none : p.text = []
  · have nothing : p.flush seen = [] := if_pos (List.isEmpty_iff.2 none)
    rw [nothing]
    exact .silent (h.text.symm.trans none)
  · obtain ⟨offset, start, location⟩ := h.location none
    rw [Pending.flush_of_ne_nil none, location, h.text]
    exact .text start

/-- A token without characters leaves what is pending. -/
theorem Pending.IsFor.skip (h : p.IsFor source l) (offset : Nat) {t : Token}
    (ht : t.characters = []) : p.IsFor source (l ++ [(offset, t)]) where
  text := by rw [h.text, stretchText_append, stretchText_singleton, ht, List.append_nil]
  location some := by
    obtain ⟨first, start, location⟩ := h.location some
    exact ⟨first, start.append _, location⟩

/-- The characters of a token are added to what is pending. -/
theorem Pending.IsFor.push (h : p.IsFor source l) (offset : Nat) (t : Token) :
    (p.push t.characters (.ofOffset source offset)).IsFor source (l ++ [(offset, t)]) where
  text := by rw [Pending.text_push, h.text, stretchText_append, stretchText_singleton]
  location some := by
    rw [Pending.text_push] at some
    by_cases none : p.text = []
    · rw [none, List.nil_append] at some
      refine ⟨offset, .intro (h.text.symm.trans none) some, ?_⟩
      unfold Pending.push
      rw [if_pos (List.isEmpty_iff.2 none)]
    · obtain ⟨first, start, location⟩ := h.location none
      refine ⟨first, start.append _, ?_⟩
      unfold Pending.push
      rw [if_neg (mt List.isEmpty_iff.1 none)]
      exact location

/-! ## Documents -/

/-- Tokens that follow a stretch report its text first if it is pending. -/
theorem reported_eventsFrom_upTo {stop reached : Nat} {fault : Option Fault} {p : Progress}
    {ts : List (Nat × Token)} (pending : p.pending.IsFor source l)
    (plain : ∀ x ∈ l, x.2.isMarkup = false)
    (ordered : (reached :: ts.map Prod.fst).Pairwise (· ≤ ·))
    (sound : (eventsFrom stop fault (.upTo source reached) p ts).fault = none) :
    Reported source p.scopes (l ++ ts)
      (eventsFrom stop fault (.upTo source reached) p ts).items := by
  induction ts generalizing l reached p with
  | nil => exact .rest (by rwa [List.append_nil])
  | cons x r ih =>
    obtain ⟨offset, t⟩ := x
    obtain ⟨le, ordered⟩ := List.pairwise_cons.1 ordered
    obtain ⟨items, p', hs, hf, hi⟩ := eventsFrom_cons_of_sound sound
    rw [LineTracker.advance_upTo source (le offset List.mem_cons_self)] at hs hf hi
    rw [hi]
    cases ht : t.isMarkup with
    | true =>
      obtain ⟨e, reports, none, rfl⟩ := Progress.step_of_isMarkup ht hs
      have after := ih (none ▸ Pending.isFor_nil) (List.forall_mem_nil _) ordered hf
      rw [List.append_assoc, List.singleton_append]
      exact .markup plain (pending.flush _) reports after
    | false =>
      obtain ⟨rfl, scopes, held⟩ := Progress.step_of_not_isMarkup ht hs
      have longer : p'.pending.IsFor source (l ++ [(offset, t)]) := by
        rcases held with more | ⟨none, same⟩
        · exact more ▸ pending.push offset t
        · exact same ▸ pending.skip offset none
      have plain' : ∀ x ∈ l ++ [(offset, t)], x.2.isMarkup = false := by
        rintro x hx
        rcases List.mem_append.1 hx with hx | hx
        · exact plain x hx
        · exact List.mem_singleton.1 hx ▸ ht
      have after := ih longer plain' ordered hf
      rwa [List.append_assoc, List.singleton_append, scopes] at after

end

/-- Whatever tokens follow one another, reading them without a fault reports their markup and the
text between, and so it does for those that a document is cut into. -/
theorem reported_of_sound :
    (∀ (source : List UInt8) (stop : Nat) (fault : Option Fault) (ts : List (Nat × Token)),
      (ts.map Prod.fst).Pairwise (· ≤ ·) →
        (eventsFrom stop fault (.start source) ⟨.outermost, .none⟩ ts).fault = none →
          Reported source .outermost ts
            (eventsFrom stop fault (.start source) ⟨.outermost, .none⟩ ts).items) ∧
      ∀ document : String, (events document).fault = none →
        Reported (document.toList.flatMap String.utf8EncodeChar) .outermost
          (tokens document.toList).items (events document).items := by
  have all (source : List UInt8) (stop : Nat) (fault : Option Fault) (ts : List (Nat × Token))
      (ordered : (ts.map Prod.fst).Pairwise (· ≤ ·))
      (sound : (eventsFrom stop fault (.start source) ⟨.outermost, .none⟩ ts).fault = none) :
      Reported source .outermost ts
        (eventsFrom stop fault (.start source) ⟨.outermost, .none⟩ ts).items := by
    rw [LineTracker.start_eq_upTo] at sound ⊢
    exact reported_eventsFrom_upTo Pending.isFor_nil (List.forall_mem_nil _)
      (List.pairwise_cons.2 ⟨fun _ _ => Nat.zero_le _, ordered⟩) sound
  exact ⟨all, fun document sound => all _ _ _ _ (pairwise_tokens document.toList) sound⟩

/-- A note whose text is divided by a comment, a reference and the start of a section. -/
def note : String := "<n> <!-- b -->\n&lt;<![CDATA[&]]></n> "

/-- The note has one text, which starts with its blank; tokens that start at one offset are read as
well. -/
theorem reported_of_sound_note :
    (events note).fault = none ∧
      Reported (note.toList.flatMap String.utf8EncodeChar) .outermost (tokens note.toList).items
        [⟨.start ⟨none, none, "n", []⟩, ⟨1, 1⟩, ⟨1, 1⟩⟩, ⟨.characters " \n<&", ⟨1, 4⟩, ⟨2, 18⟩⟩,
          ⟨.close, ⟨2, 18⟩, ⟨2, 18⟩⟩] ∧
      Reported [10, 10] .outermost [(1, .text []), (1, .text ['a']), (3, .closeTag)]
        [⟨.characters "a", ⟨2, 1⟩, ⟨3, 1⟩⟩, ⟨.close, ⟨3, 1⟩, ⟨3, 1⟩⟩] := by
  have sound : (events note).fault = none := by decide +kernel
  have items : (events note).items =
      [⟨.start ⟨none, none, "n", []⟩, ⟨1, 1⟩, ⟨1, 1⟩⟩, ⟨.characters " \n<&", ⟨1, 4⟩, ⟨2, 18⟩⟩,
        ⟨.close, ⟨2, 18⟩, ⟨2, 18⟩⟩] := by decide +kernel
  refine ⟨sound, items ▸ reported_of_sound.2 note sound, ?_⟩
  exact reported_of_sound.1 [10, 10] 3 none _ (by decide) (by decide +kernel)

end Bxml.Xml
