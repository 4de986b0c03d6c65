import Bxml.Xml.Document

/-!
# The outline of a document

Tags open and close elements, and what stands in no element is outside: the outermost elements, and
text between them.  This file reads the outline of a document off its tokens and finds it again in
its events: they have the same levels, and text is reported as soon as markup follows.

* `levelAfter` counts the open elements after some events, and `depthAfter` those after some tokens.
* `IsSingleRooted` is what a document should be, and `IsOutlined` what is found of it in its events.
* `Token.Reports` lists what markup reports; from it follow `levelAfter_eventsFrom`, by which events
  have the levels of the tokens, and `exists_characters`, by which text is reported before markup.
-/

namespace Bxml.Xml

/-! ## Levels -/

/-- How many elements are open after an event if `n` are open before. An element that was open
earlier does not end. -/
def Event.levelAfter (n : Nat) : Event → Option Nat
  | .start _ => some (n + 1)
  | .close => if n = 0 then none else some (n - 1)
  | .instruction _ _ => some n
  | .characters _ => some n

/-- An element that ends among those that are counted ends among more of them as well. -/
theorem ended_add {n m : Nat} (h : (if n = 0 then none else some (n - 1)) = some m) (k : Nat) :
    (if n + k = 0 then none else some (n + k - 1)) = some (m + k) := by
  by_cases hn : n = 0
  · rw [if_pos hn] at h
    cases h
  · obtain rfl : m = n - 1 := Option.some.inj (h.symm.trans (if_neg hn))
    refine (if_neg (by omega)).trans (congrArg some ?_)
    omega

/-- More elements around those that are counted make no difference. -/
theorem Event.levelAfter_add {e : Event} {n m : Nat} (h : e.levelAfter n = some m) (k : Nat) :
    e.levelAfter (n + k) = some (m + k) := by
  cases e with
  | close => exact ended_add h k
  | _ =>
    cases h
    simp only [levelAfter, Nat.add_right_comm]

/-- How many elements are open after some events if `n` are open before. -/
def levelAfter (n : Nat) (items : List Located) : Option Nat :=
  items.foldlM (fun n x => x.event.levelAfter n) n

theorem levelAfter_cons_eq_some {n m : Nat} {x : Located} {r : List Located} :
    levelAfter n (x :: r) = some m ↔
      ∃ j, x.event.levelAfter n = some j ∧ levelAfter j r = some m := by
  unfold levelAfter
  rw [List.foldlM_cons]
  exact Option.bind_eq_some_iff

theorem levelAfter_singleton (n : Nat) (x : Located) : levelAfter n [x] = x.event.levelAfter n := by
  unfold levelAfter
  rw [List.foldlM_cons]
  exact bind_pure _

theorem levelAfter_append (n : Nat) (a b : List Located) :
    levelAfter n (a ++ b) = (levelAfter n a).bind (levelAfter · b) :=
  List.foldlM_append

namespace Token

/-- The characters a token stands for. -/
def characters : Token → List Char
  | .text l => l
  | .cdata l => l
  | .reference name => (expand name 1 (1 + byteSize name)).toOption.toList
  | _ => []

/-- Whether a token ends the text before it. -/
def isMarkup : Token → Bool
  | .openTag _ | .closeTag | .instruction _ => true
  | _ => false

/-- Whether a token stands for white space, if it stands for text at all. -/
def IsBlank (t : Token) : Prop := t.characters.all Text.isBlank = true

instance (t : Token) : Decidable t.IsBlank := inferInstanceAs (Decidable (_ = true))

/-- How many elements are open after a token if `n` are open before. -/
def levelAfter (n : Nat) : Token → Option Nat
  | .openTag _ => some (n + 1)
  | .closeTag => if n = 0 then none else some (n - 1)
  | _ => some n

theorem levelAfter_of_not_isMarkup {t : Token} (h : t.isMarkup = false) (n : Nat) :
    t.levelAfter n = some n := by
  cases t with
  | openTag inside => cases h
  | closeTag => cases h
  | instruction content => cases h
  | text l => rfl
  | cdata l => rfl
  | reference name => rfl
  | skipped => rfl

theorem levelAfter_add {t : Token} {n m : Nat} (h : t.levelAfter n = some m) (k : Nat) :
    t.levelAfter (n + k) = some (m + k) := by
  cases t with
  | closeTag => exact ended_add h k
  | _ =>
    cases h
    simp only [levelAfter, Nat.add_right_comm]

theorem isBlank_of_isMarkup {t : Token} (h : t.isMarkup = true) : t.IsBlank := by
  cases t with
  | openTag inside => rfl
  | closeTag => rfl
  | instruction content => rfl
  | text l => cases h
  | cdata l => cases h
  | reference name => cases h
  | skipped => rfl

end Token

/-- How many elements are open after some tokens if `n` are open before. -/
def depthAfter (n : Nat) (ts : List Token) : Option Nat :=
  ts.foldlM Token.levelAfter n

theorem depthAfter_cons (n : Nat) (t : Token) (r : List Token) :
    depthAfter n (t :: r) = (t.levelAfter n).bind (depthAfter · r) :=
  List.foldlM_cons

theorem depthAfter_append (n : Nat) (a b : List Token) :
    depthAfter n (a ++ b) = (depthAfter n a).bind (depthAfter · b) :=
  List.foldlM_append

theorem depthAfter_add {ts : List Token} {n m : Nat} (h : depthAfter n ts = some m) (k : Nat) :
    depthAfter (n + k) ts = some (m + k) := by
  induction ts generalizing n with
  | nil =>
    cases h
    rfl
  | cons t r ih =>
    rw [depthAfter_cons] at h ⊢
    obtain ⟨j, ht, hr⟩ := Option.bind_eq_some_iff.1 h
    rw [Token.levelAfter_add ht k]
    exact ih hr

/-- Complete elements leave open what is open around them. -/
theorem depthAfter_of_complete {ts : List Token} (h : depthAfter 0 ts = some 0) (n : Nat) :
    depthAfter n ts = some n := by
  have more := depthAfter_add h n
  rwa [Nat.zero_add] at more

theorem depthAfter_of_not_isMarkup {ts : List Token} (h : ∀ t ∈ ts, t.isMarkup = false) (n : Nat) :
    depthAfter n ts = some n := by
  induction ts with
  | nil => rfl
  | cons t r ih =>
    rw [List.forall_mem_cons] at h
    rw [depthAfter_cons, Token.levelAfter_of_not_isMarkup h.1]
    exact ih h.2

/-- How many elements begin among some tokens where no other one is open, if `n` are open before
them. -/
def rootCount : Nat → List Token → Nat
  | _, [] => 0
  | n, .openTag _ :: r => (if n = 0 then 1 else 0) + rootCount (n + 1) r
  | n, .closeTag :: r => rootCount (n - 1) r
  | n, _ :: r => rootCount n r

/-- Where an element ends, one began. -/
theorem rootCount_pos {ts : List Token} (h : depthAfter 0 ts ≠ none) (hc : .closeTag ∈ ts) :
    0 < rootCount 0 ts := by
  induction ts with
  | nil => cases hc
  | cons t r ih =>
    rw [depthAfter_cons] at h
    have later (hl : t.levelAfter 0 = some 0) (ht : .closeTag ≠ t) : 0 < rootCount 0 r := by
      rw [hl] at h
      exact ih h ((List.mem_cons.1 hc).resolve_left ht)
    cases t with
    | openTag inside =>
      rw [rootCount, if_pos rfl, Nat.add_comm]
      exact Nat.succ_pos _
    | closeTag => exact absurd rfl h
    | text l => exact later rfl nofun
    | cdata l => exact later rfl nofun
    | reference name => exact later rfl nofun
    | instruction content => exact later rfl nofun
    | skipped => exact later rfl nofun

/-! ## What is outside -/

/-- Whether a document is one element with nothing but white space outside it. -/
structure IsSingleRooted (ts : List Token) : Prop where
  ended : depthAfter 0 ts = some 0
  root : rootCount 0 ts = 1
  blank : ∀ before t after, ts = before ++ t :: after → depthAfter 0 before = some 0 → t.IsBlank

/-- Whether a document consists of complete elements, at least one, with nothing but white space
outside them as far as markup follows. -/
structure IsOutlined (ts : List Token) : Prop where
  ended : depthAfter 0 ts = some 0
  root : 0 < rootCount 0 ts
  blank : ∀ before t after, ts = before ++ t :: after → depthAfter 0 before = some 0 →
    (∃ u ∈ after, u.isMarkup = true) → t.IsBlank

/-- Between a single root and an outline stand further elements and the text at the end. -/
theorem IsOutlined.isSingleRooted_iff {ts : List Token} (h : IsOutlined ts) :
    IsSingleRooted ts ↔ rootCount 0 ts = 1 ∧
      ∀ rest, rest <:+ ts → (∀ t ∈ rest, t.isMarkup = false) → ∀ t ∈ rest, t.IsBlank := by
  constructor
  · rintro ⟨ended, root, blank⟩
    refine ⟨root, ?_⟩
    rintro rest ⟨front, rfl⟩ hm t ht
    obtain ⟨before, after, rfl⟩ := List.append_of_mem ht
    have outside : depthAfter 0 (front ++ before) = some 0 := by
      have all := depthAfter_append 0 (front ++ before) (t :: after)
      rw [List.append_assoc, ended] at all
      cases hd : depthAfter 0 (front ++ before) with
      | none =>
        rw [hd] at all
        cases all
      | some n =>
        rw [hd] at all
        have rest := depthAfter_of_not_isMarkup
          (fun u hu => hm u (List.mem_append_right _ hu)) n
        exact all.trans rest ▸ rfl
    exact blank _ t after (List.append_assoc _ _ _).symm outside
  · rintro ⟨root, last⟩
    refine ⟨h.ended, root, fun before t after hts outside => ?_⟩
    by_cases hm : ∃ u ∈ t :: after, u.isMarkup = true
    · obtain ⟨u, hu, hm⟩ := hm
      rcases List.mem_cons.1 hu with rfl | hu
      · exact Token.isBlank_of_isMarkup hm
      · exact h.blank before t after hts outside ⟨u, hu, hm⟩
    · have plain : ∀ u ∈ t :: after, u.isMarkup = false := fun u hu =>
        Bool.eq_false_iff.2 fun hu' => hm ⟨u, hu, hu'⟩
      exact last (t :: after) ⟨before, hts.symm⟩ plain t List.mem_cons_self

/-! ## Outlines in events -/

section

variable {stop : Nat} {fault : Option Fault} {lines : LineTracker} {p : Progress}

theorem Pending.flush_of_ne_nil {p : Pending} (h : p.text ≠ []) (seen : Location) :
    p.flush seen = [⟨.characters (String.ofList p.text), p.location, seen⟩] := by
  unfold flush
  rw [List.isEmpty_eq_false_iff.2 h]
  rfl

@[simp] theorem Pending.levelAfter_flush (p : Pending) (seen : Location) (n : Nat) :
    levelAfter n (p.flush seen) = some n := by
  unfold flush
  split <;> rfl

theorem Pending.text_push (p : Pending) (piece : List Char) (location : Location) :
    (p.push piece location).text = p.text ++ piece := by
  unfold push
  split
  · next h => rw [List.isEmpty_iff.1 h, List.nil_append]
  · rfl

/-- What markup reports in the scopes before it, and the scopes after it. -/
inductive Token.Reports (s : Scopes) : Token → Event → Scopes → Prop
  | openTag {inside : List Char} {tag : StartTag} {inner : Scopes}
      (h : startTag s inside = .ok (tag, inner)) : Reports s (.openTag inside) (.start tag) inner
  | closeTag : Reports s .closeTag .close s.pop
  | instruction (content : List Char) :
      Reports s (.instruction content)
        (.instruction (splitInstruction content).1 (splitInstruction content).2) s

theorem Token.Reports.levelAfter {s inner : Scopes} {t : Token} {e : Event}
    (h : t.Reports s e inner) (n : Nat) : e.levelAfter n = t.levelAfter n := by
  cases h <;> rfl

/-- A token that is no markup has no event, and adds what it stands for to the text that is still to
be reported. -/
theorem Progress.step_of_not_isMarkup {location : Location} {t : Token} {items : List Located}
    {p' : Progress} (ht : t.isMarkup = false) (h : p.step location t = (items, .ok p')) :
    items = [] ∧ p'.scopes = p.scopes ∧
      (p'.pending = p.pending.push t.characters location ∨
        t.characters = [] ∧ p'.pending = p.pending) := by
  cases t with
  | openTag inside => cases ht
  | closeTag => cases ht
  | instruction content => cases ht
  | text l =>
    cases h
    exact ⟨rfl, rfl, .inl rfl⟩
  | cdata l =>
    cases h
    exact ⟨rfl, rfl, .inl rfl⟩
  | reference name =>
    unfold step at h
    dsimp only at h
    split at h
    · next c hc =>
      cases h
      refine ⟨rfl, rfl, .inl ?_⟩
      rw [Token.characters, hc]
      rfl
    · cases h
  | skipped =>
    cases h
    exact ⟨rfl, rfl, .inr ⟨rfl, rfl⟩⟩

/-- Text that is still to be reported grows by what tokens between markup stand for. -/
theorem Progress.text_of_not_isMarkup {location : Location} {t : Token} {items : List Located}
    {p' : Progress} (ht : t.isMarkup = false) (h : p.step location t = (items, .ok p')) :
    p'.pending.text = p.pending.text ++ t.characters := by
  obtain ⟨-, -, more | ⟨none, same⟩⟩ := step_of_not_isMarkup ht h
  · rw [more, Pending.text_push]
  · rw [same, none, List.append_nil]

/-- Markup reports the text before it and then itself. -/
theorem Progress.step_of_isMarkup {location : Location} {t : Token} {items : List Located}
    {p' : Progress} (ht : t.isMarkup = true) (h : p.step location t = (items, .ok p')) :
    ∃ e, t.Reports p.scopes e p'.scopes ∧ p'.pending = .none ∧
      items = p.pending.flush location ++ [⟨e, location, location⟩] := by
  cases t with
  | openTag inside =>
    unfold step at h
    dsimp only at h
    split at h
    · next hs =>
      cases h
      exact ⟨_, .openTag hs, rfl, rfl⟩
    · cases h
  | closeTag =>
    cases h
    exact ⟨_, .closeTag, rfl, rfl⟩
  | instruction content =>
    cases h
    exact ⟨_, .instruction content, rfl, rfl⟩
  | text l => cases ht
  | cdata l => cases ht
  | reference name => cases ht
  | skipped => cases ht

/-- A token that has no fault makes events of its level. -/
theorem Progress.levelAfter_step {location : Location} {t : Token} {items : List Located}
    {p' : Progress} (h : p.step location t = (items, .ok p')) (n : Nat) :
    levelAfter n items = t.levelAfter n := by
  cases ht : t.isMarkup with
  | true =>
    obtain ⟨e, he, -, rfl⟩ := step_of_isMarkup ht h
    rw [levelAfter_append, Pending.levelAfter_flush]
    exact (levelAfter_singleton n _).trans (he.levelAfter n)
  | false =>
    obtain ⟨rfl, -, -⟩ := step_of_not_isMarkup ht h
    exact (Token.levelAfter_of_not_isMarkup ht n).symm

/-- An end of an element is made by the token for it. -/
theorem Progress.closeTag_of_step {location : Location} {t : Token} {x : Located}
    (hx : x ∈ (p.step location t).1) (he : x.event = .close) : t = .closeTag := by
  have text {seen : Location} (h : x ∈ p.pending.flush seen) : x.event ≠ .close := by
    unfold Pending.flush at h
    split at h
    · cases h
    · obtain rfl := List.mem_singleton.1 h
      exact nofun
  cases t with
  | closeTag => rfl
  | openTag inside =>
    unfold step at hx
    dsimp only at hx
    split at hx
    · rcases List.mem_append.1 hx with hx | hx
      · exact absurd he (text hx)
      · obtain rfl := List.mem_singleton.1 hx
        cases he
    · exact absurd he (text hx)
  | instruction content =>
    rcases List.mem_append.1 hx with hx | hx
    · exact absurd he (text hx)
    · obtain rfl := List.mem_singleton.1 hx
      cases he
  | text l => cases hx
  | cdata l => cases hx
  | reference name =>
    unfold step at hx
    dsimp only at hx
    split at hx <;> cases hx
  | skipped => cases hx

/-- A document without a fault has the events of its first token and then those of the others. -/
theorem eventsFrom_cons_of_sound {offset : Nat} {t : Token} {r : List (Nat × Token)}
    (h : (eventsFrom stop fault lines p ((offset, t) :: r)).fault = none) :
    ∃ items p', p.step (lines.advance offset).1 t = (items, .ok p') ∧
      (eventsFrom stop fault (lines.advance offset).2 p' r).fault = none ∧
      (eventsFrom stop fault lines p ((offset, t) :: r)).items =
        items ++ (eventsFrom stop fault (lines.advance offset).2 p' r).items := by
  rw [eventsFrom] at h ⊢
  dsimp only at h ⊢
  rcases hs : p.step (lines.advance offset).1 t with ⟨items, _ | p'⟩
  · rw [hs] at h
    cases h
  · rw [hs] at h
    exact ⟨items, p', rfl, h, rfl⟩

/-- Events have the levels of the tokens. -/
theorem levelAfter_eventsFrom {r : List (Nat × Token)}
    (h : (eventsFrom stop fault lines p r).fault = none) (n : Nat) :
    levelAfter n (eventsFrom stop fault lines p r).items = depthAfter n (r.map (·.2)) := by
  induction r generalizing lines p n with
  | nil => rfl
  | cons x r ih =>
    obtain ⟨offset, t⟩ := x
    obtain ⟨items, p', hs, hf, hi⟩ := eventsFrom_cons_of_sound h
    rw [hi, levelAfter_append, Progress.levelAfter_step hs, List.map_cons, depthAfter_cons]
    congr 1
    funext m
    exact ih hf m

/-- An element whose end is an event has an end tag. -/
theorem closeTag_of_close {r : List (Nat × Token)} {x : Located}
    (h : (eventsFrom stop fault lines p r).fault = none)
    (hx : x ∈ (eventsFrom stop fault lines p r).items) (he : x.event = .close) :
    .closeTag ∈ r.map (·.2) := by
  induction r generalizing lines p with
  | nil => cases hx
  | cons y r ih =>
    obtain ⟨offset, t⟩ := y
    obtain ⟨items, p', hs, hf, hi⟩ := eventsFrom_cons_of_sound h
    rw [hi] at hx
    rw [List.map_cons]
    rcases List.mem_append.1 hx with hx | hx
    · have made : x ∈ (p.step (lines.advance offset).1 t).1 := by rwa [hs]
      rw [Progress.closeTag_of_step made he]
      exact List.mem_cons_self
    · exact List.mem_cons_of_mem _ (ih hf hx)

/-- Text is the next thing that is reported if markup follows it. -/
theorem exists_reported {r : List (Nat × Token)}
    (h : (eventsFrom stop fault lines p r).fault = none) (hp : p.pending.text ≠ [])
    (hm : ∃ t ∈ r.map (·.2), t.isMarkup = true) :
    ∃ x rest text, (eventsFrom stop fault lines p r).items = x :: rest ∧
      x.event = .characters text ∧ p.pending.text <+: text.toList := by
  induction r generalizing lines p with
  | nil =>
    obtain ⟨t, ht, -⟩ := hm
    cases ht
  | cons y r ih =>
    obtain ⟨offset, t⟩ := y
    obtain ⟨items, p', hs, hf, hi⟩ := eventsFrom_cons_of_sound h
    rw [hi]
    cases ht : t.isMarkup with
    | true =>
      obtain ⟨e, -, -, rfl⟩ := Progress.step_of_isMarkup ht hs
      rw [Pending.flush_of_ne_nil hp]
      refine ⟨_, _, _, rfl, rfl, [], ?_⟩
      rw [List.append_nil, String.toList_ofList]
    | false =>
      obtain ⟨rfl, -, -⟩ := Progress.step_of_not_isMarkup ht hs
      have text := Progress.text_of_not_isMarkup ht hs
      have later : ∃ t ∈ r.map (·.2), t.isMarkup = true := by
        obtain ⟨u, hu, hm⟩ := hm
        rcases List.mem_cons.1 hu with rfl | hu
        · rw [ht] at hm
          cases hm
        · exact ⟨u, hu, hm⟩
      have unreported : p'.pending.text ≠ [] := by
        rw [text]
        exact List.append_ne_nil_of_left_ne_nil hp _
      obtain ⟨x, rest, s, hx, he, hpre⟩ := ih hf unreported later
      exact ⟨x, rest, s, hx, he, (text ▸ List.prefix_append _ _).trans hpre⟩

/-- Text that markup follows is part of an event, which has the level of the text. -/
theorem exists_characters {before after : List (Nat × Token)} {offset : Nat} {t : Token}
    (h : (eventsFrom stop fault lines p (before ++ (offset, t) :: after)).fault = none)
    (ht : t.characters ≠ []) (hm : ∃ u ∈ after.map (·.2), u.isMarkup = true) :
    ∃ front x rest text,
      (eventsFrom stop fault lines p (before ++ (offset, t) :: after)).items =
        front ++ x :: rest ∧
      x.event = .characters text ∧ t.characters <:+: text.toList ∧
      ∀ n, levelAfter n front = depthAfter n (before.map (·.2)) := by
  induction before generalizing lines p with
  | nil =>
    obtain ⟨items, p', hs, hf, hi⟩ := eventsFrom_cons_of_sound h
    have plain : t.isMarkup = false := by
      cases t with
      | openTag inside => exact absurd rfl ht
      | closeTag => exact absurd rfl ht
      | instruction content => exact absurd rfl ht
      | _ => rfl
    obtain ⟨rfl, -, -⟩ := Progress.step_of_not_isMarkup plain hs
    have pending := Progress.text_of_not_isMarkup plain hs
    have unreported : p'.pending.text ≠ [] := by
      rw [pending]
      exact List.append_ne_nil_of_right_ne_nil _ ht
    obtain ⟨x, rest, text, hx, he, hpre⟩ := exists_reported hf unreported hm
    refine ⟨[], x, rest, text, hi.trans hx, he, ?_, fun _ => rfl⟩
    rw [pending] at hpre
    exact (List.suffix_append _ _).isInfix.trans hpre.isInfix
  | cons y before ih =>
    obtain ⟨items, p', hs, hf, hi⟩ := eventsFrom_cons_of_sound h
    obtain ⟨front, x, rest, text, hx, he, hin, hl⟩ := ih hf
    refine ⟨items ++ front, x, rest, text, ?_, he, hin, fun n => ?_⟩
    · exact hi.trans ((congrArg (items ++ ·) hx).trans (List.append_assoc _ _ _).symm)
    · rw [levelAfter_append, Progress.levelAfter_step hs, List.map_cons, depthAfter_cons]
      congr 1
      funext m
      exact hl m

end

end Bxml.Xml
