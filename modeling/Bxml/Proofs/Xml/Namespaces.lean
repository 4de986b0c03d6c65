import Bxml.Proofs.Xml.Prefixes

/-!
# Namespaces of elements

Start tags are reported with the address that their prefix stands for by the tokens before them. One
whose prefix stands for nothing is rejected, and elements that have ended make no difference to what
follows. The start tags of a document depend on its tokens alone, not on where they stand or on the
text between them, so that they are found by a reading that keeps the scopes and nothing else.

* `Scopes.read` is the reading, and `startTags_eventsFrom` says that it finds the start tags of the
  document.
* `Token.Effect` lists what one token may do, `Scopes.IsAfter.step` says that it keeps the scopes in
  line with the open elements, and `Scopes.IsAfter.read` the same of many tokens.
* `rejected_iff` says which tags are rejected, `exists_startTags_of_complete` that ended elements
  have no influence, and `resolved_of_nested` is the result.

What a prefix stands for is defined in `Xml/Prefixes.lean`, by the tokens alone.
-/

namespace Bxml.Xml

/-! ## Reading without the text -/

/-- The start tag an event reports, if it reports one. -/
def Event.startTag? : Event → Option StartTag
  | .start tag => some tag
  | _ => none

/-- The start tags that are reported. -/
def startTags (items : List Located) : List StartTag := items.filterMap (·.event.startTag?)

theorem startTags_append (a b : List Located) :
    startTags (a ++ b) = startTags a ++ startTags b := List.filterMap_append

@[simp] theorem Pending.startTags_flush (p : Pending) (seen : Location) :
    startTags (p.flush seen) = [] := by
  unfold flush
  split <;> rfl

/-- What a token reports and does in some scopes: a start tag if it is one, and the scopes after it,
unless it is at fault. -/
def Token.read (s : Scopes) : Token → Except Fault (Option StartTag × Scopes)
  | .openTag inside => (startTag s inside).map fun made => (some made.1, made.2)
  | .closeTag => .ok (none, s.pop)
  | .reference name =>
    ((expand name 1 (1 + byteSize name)).mapError .escape).map fun _ => (none, s)
  | _ => .ok (none, s)

/-- The start tags that tokens report in some scopes, and the scopes after them or the first fault. -/
def Scopes.read (s : Scopes) : List Token → List StartTag × Except Fault Scopes
  | [] => ([], .ok s)
  | t :: r =>
    match t.read s with
    | .ok (tag?, s) => (tag?.toList ++ (s.read r).1, (s.read r).2)
    | .error f => ([], .error f)

/-- The fault of a document whose tokens are read, with that of the text they are cut from. -/
def faultAfter (fault : Option Fault) : Except Fault Scopes → Option Fault
  | .ok _ => fault
  | .error f => some f

/-- Besides a start tag, a token reports nothing but text and other markup. -/
theorem Progress.step_eq_read (p : Progress) (location : Location) (t : Token) :
    ∃ items pending,
      p.step location t = (items, (t.read p.scopes).map fun next => ⟨next.2, pending⟩) ∧
        startTags items = ((t.read p.scopes).toOption.bind Prod.fst).toList := by
  have markup (e : Event) : startTags (p.pending.flush location ++ [⟨e, location, location⟩]) =
      e.startTag?.toList := by
    rw [startTags_append, Pending.startTags_flush]
    cases e <;> rfl
  cases t with
  | openTag inside =>
    unfold step Token.read
    dsimp only
    cases startTag p.scopes inside with
    | ok made => exact ⟨_, _, rfl, markup _⟩
    | error f => exact ⟨_, .none, rfl, p.pending.startTags_flush location⟩
  | closeTag => exact ⟨_, _, rfl, markup _⟩
  | text l => exact ⟨_, _, rfl, rfl⟩
  | cdata l => exact ⟨_, _, rfl, rfl⟩
  | reference name =>
    unfold step Token.read
    dsimp only
    cases expand name 1 (1 + byteSize name) with
    | ok c => exact ⟨_, _, rfl, rfl⟩
    | error f => exact ⟨_, .none, rfl, rfl⟩
  | instruction content => exact ⟨_, _, rfl, markup _⟩
  | skipped => exact ⟨_, _, rfl, rfl⟩

/-- Where tokens stand and the text between them make no difference to the start tags. -/
theorem startTags_eventsFrom (stop : Nat) (fault : Option Fault) (lines : LineTracker)
    (p : Progress) (ts : List (Nat × Token)) :
    startTags (eventsFrom stop fault lines p ts).items = (p.scopes.read (ts.map (·.2))).1 ∧
      (eventsFrom stop fault lines p ts).fault =
        faultAfter fault (p.scopes.read (ts.map (·.2))).2 := by
  induction ts generalizing lines p with
  | nil => exact ⟨rfl, rfl⟩
  | cons x r ih =>
    obtain ⟨offset, t⟩ := x
    rw [eventsFrom, List.map_cons, Scopes.read]
    dsimp only
    obtain ⟨items, pending, step, tags⟩ := p.step_eq_read (lines.advance offset).1 t
    rw [step]
    cases h : t.read p.scopes with
    | error f =>
      rw [h] at tags
      exact ⟨tags, rfl⟩
    | ok next =>
      rw [h] at tags
      obtain ⟨later, faults⟩ := ih (lines.advance offset).2 ⟨next.2, pending⟩
      exact ⟨(startTags_append _ _).trans (tags ▸ later ▸ rfl), faults⟩

namespace Scopes

variable {s s' : Scopes}

theorem read_cons_of_ok {t : Token} {next : Option StartTag × Scopes} (h : t.read s = .ok next)
    (r : List Token) :
    s.read (t :: r) = (next.1.toList ++ (next.2.read r).1, (next.2.read r).2) := by
  rw [read, h]

/-- Tokens are read without a fault if the first is and then the others. -/
theorem exists_read_of_cons {t : Token} {r : List Token} (h : (s.read (t :: r)).2 = .ok s') :
    ∃ next, t.read s = .ok next ∧ (next.2.read r).2 = .ok s' := by
  rw [read] at h
  cases ht : t.read s with
  | error f =>
    rw [ht] at h
    cases h
  | ok next =>
    rw [ht] at h
    exact ⟨next, rfl, h⟩

theorem exists_read_of_append {a b : List Token} (h : (s.read (a ++ b)).2 = .ok s') :
    ∃ inner, (s.read a).2 = .ok inner ∧ (inner.read b).2 = .ok s' := by
  induction a generalizing s with
  | nil => exact ⟨s, rfl, h⟩
  | cons t r ih =>
    obtain ⟨next, ht, hr⟩ := exists_read_of_cons h
    rw [read_cons_of_ok ht]
    exact ih hr

theorem read_append_of_ok {a : List Token} (h : (s.read a).2 = .ok s') (b : List Token) :
    s.read (a ++ b) = ((s.read a).1 ++ (s'.read b).1, (s'.read b).2) := by
  induction a generalizing s with
  | nil =>
    cases h
    rfl
  | cons t r ih =>
    obtain ⟨next, ht, hr⟩ := exists_read_of_cons h
    rw [List.cons_append, read_cons_of_ok ht, read_cons_of_ok ht, ih hr, List.append_assoc]

end Scopes

/-! ## Scopes along the tokens -/

/-- All that a token can do in some scopes. A start tag whose attributes can be read has the address
of its prefix in the scopes inside, and is rejected if it has a prefix without one. -/
inductive Token.Effect (s : Scopes) : Token → Except Fault (Option StartTag × Scopes) → Prop
  | begins {inside : List Char} {all : List Attribute} {tag : StartTag}
      (read : attributes inside = .ok all)
      (space : tag.space = (splitName (tagName inside)).1)
      (name : tag.name = (splitName (tagName inside)).2)
      (address : (s.push (all.filterMap declaration?)).resolve tag.space = tag.namespaceUri)
      (known : tag.space ≠ none → tag.namespaceUri ≠ none) :
      Effect s (.openTag inside) (.ok (some tag, s.push (all.filterMap declaration?)))
  | rejected {inside : List Char} {all : List Attribute} (read : attributes inside = .ok all)
      (prefixed : (splitName (tagName inside)).1 ≠ none)
      (nothing : (s.push (all.filterMap declaration?)).resolve (splitName (tagName inside)).1 = none) :
      Effect s (.openTag inside) (.error (.undeclaredPrefix (String.ofList (tagName inside))))
  | malformed {inside : List Char} {f : Fault} (read : attributes inside = .error f) :
      Effect s (.openTag inside) (.error f)
  | ends : Effect s .closeTag (.ok (none, s.pop))
  | passes {t : Token} (plain : ∀ n, t.levelAfter n = some n) : Effect s t (.ok (none, s))
  | unreadable {name : List Char} {f : EscapeFault}
      (read : expand name 1 (1 + byteSize name) = .error f) :
      Effect s (.reference name) (.error (.escape f))

theorem Token.effect_openTag (s : Scopes) (inside : List Char) :
    Effect s (.openTag inside) ((startTag s inside).map fun made => (some made.1, made.2)) := by
  cases read : attributes inside with
  | error f =>
    have made : startTag s inside = .error f := by
      unfold startTag
      rw [read]
      rfl
    rw [made]
    exact .malformed read
  | ok all =>
    let inner := s.push (all.filterMap declaration?)
    let space := (splitName (tagName inside)).1
    by_cases h : (space.isSome && (inner.resolve space).isNone) = true
    · have made : startTag s inside =
          .error (.undeclaredPrefix (String.ofList (tagName inside))) := by
        unfold startTag
        rw [read]
        exact (if_pos h).trans rfl
      obtain ⟨some, none⟩ := Bool.and_eq_true_iff.1 h
      rw [made]
      exact .rejected read (Option.isSome_iff_ne_none.1 some) (Option.isNone_iff_eq_none.1 none)
    · obtain ⟨attributes, made⟩ : ∃ attributes, startTag s inside =
          .ok (⟨inner.resolve space, space, (splitName (tagName inside)).2, attributes⟩, inner) := by
        unfold startTag
        rw [read]
        exact ⟨_, (if_neg h).trans rfl⟩
      have known (some : space ≠ none) (none : inner.resolve space = none) : False :=
        h (Bool.and_eq_true_iff.2
          ⟨Option.isSome_iff_ne_none.2 some, Option.isNone_iff_eq_none.2 none⟩)
      rw [made]
      exact .begins read rfl rfl rfl known

theorem Token.effect_read (s : Scopes) (t : Token) : t.Effect s (t.read s) := by
  cases t with
  | openTag inside => exact effect_openTag s inside
  | closeTag => exact .ends
  | reference name =>
    unfold read
    dsimp only
    cases read : expand name 1 (1 + byteSize name) with
    | error f => exact .unreadable read
    | ok c => exact .passes fun _ => rfl
  | _ => exact .passes fun _ => rfl

/-- A token leaves the scopes around the elements that are open before and after it. -/
theorem Token.drop_scopes_of_read {s s' : Scopes} {t : Token} {tag? : Option StartTag} {n m : Nat}
    (h : t.read s = .ok (tag?, s')) (level : t.levelAfter n = some m) :
    s'.scopes.drop m = s.scopes.drop n := by
  have effect := t.effect_read s
  rw [h] at effect
  cases effect with
  | begins read space name address known =>
    cases level
    rfl
  | ends =>
    by_cases hn : n = 0
    · rw [hn] at level
      cases level
    · obtain rfl : m = n - 1 := Option.some.inj (level.symm.trans (if_neg hn))
      obtain ⟨k, rfl⟩ := Nat.exists_eq_succ_of_ne_zero hn
      exact List.drop_tail
  | passes plain => rw [Option.some.inj ((plain n).symm.trans level)]

/-- Reading leaves the scopes around the elements that are open before and after. -/
theorem Scopes.drop_scopes_of_read {s s' : Scopes} {ts : List Token} {n m : Nat}
    (h : (s.read ts).2 = .ok s') (level : depthAfter n ts = some m) :
    s'.scopes.drop m = s.scopes.drop n := by
  induction ts generalizing s n with
  | nil =>
    cases h
    cases level
    rfl
  | cons t r ih =>
    rw [depthAfter_cons] at level
    obtain ⟨j, first, later⟩ := Option.bind_eq_some_iff.1 level
    obtain ⟨next, ht, hr⟩ := exists_read_of_cons h
    exact (ih hr later).trans (Token.drop_scopes_of_read ht first)

/-- A token leads from the scopes of the open elements to those of the elements open after it. -/
theorem Scopes.IsAfter.step {s s' : Scopes} {before : List Token} {t : Token}
    {tag? : Option StartTag} (h : s.IsAfter before) (nested : IsNested (before ++ [t]))
    (ht : t.read s = .ok (tag?, s')) : s'.IsAfter (before ++ [t]) := by
  have effect := t.effect_read s
  rw [ht] at effect
  cases effect with
  | begins read => exact h.push read
  | ends => exact h.pop nested
  | passes plain => exact h.pass plain

/-- Tokens lead from the scopes of the open elements to those of the elements open after them. -/
theorem Scopes.IsAfter.read {s s' : Scopes} {before ts : List Token} (h : s.IsAfter before)
    (nested : IsNested (before ++ ts)) (read : (s.read ts).2 = .ok s') :
    s'.IsAfter (before ++ ts) := by
  induction ts generalizing s before with
  | nil =>
    cases read
    rwa [List.append_nil]
  | cons t r ih =>
    rw [List.append_cons] at nested ⊢
    obtain ⟨next, ht, hr⟩ := exists_read_of_cons read
    exact ih (h.step nested.of_append ht) nested hr

/-! ## Documents -/

/-- What tokens report as start tags after the tokens `before`, and the fault at the end: every
element up to the first that is rejected has the address that its prefix stands for, and one with a
prefix that stands for nothing is rejected. If all tokens can be read, the fault is that of the text
they are cut from. -/
inductive Resolved (fault : Option Fault) :
    List Token → List Token → List StartTag → Option Fault → Prop
  | done {before : List Token} : Resolved fault before [] [] fault
  | element {before r : List Token} {inside : List Char} {tag : StartTag} {tags : List StartTag}
      {stop : Option Fault} (space : tag.space = (splitName (tagName inside)).1)
      (name : tag.name = (splitName (tagName inside)).2)
      (address : StandsFor (before ++ [.openTag inside]) tag.space tag.namespaceUri)
      (known : tag.space ≠ none → tag.namespaceUri ≠ none)
      (after : Resolved fault (before ++ [.openTag inside]) r tags stop) :
      Resolved fault before (.openTag inside :: r) (tag :: tags) stop
  | rejected {before r : List Token} {inside : List Char} {all : List Attribute}
      (read : attributes inside = .ok all) (prefixed : (splitName (tagName inside)).1 ≠ none)
      (nothing : StandsFor (before ++ [.openTag inside]) (splitName (tagName inside)).1 none) :
      Resolved fault before (.openTag inside :: r) []
        (some (.undeclaredPrefix (String.ofList (tagName inside))))
  | malformed {before r : List Token} {inside : List Char} {f : Fault}
      (read : attributes inside = .error f) :
      Resolved fault before (.openTag inside :: r) [] (some f)
  | ended {before r : List Token} {tags : List StartTag} {stop : Option Fault}
      (after : Resolved fault (before ++ [.closeTag]) r tags stop) :
      Resolved fault before (.closeTag :: r) tags stop
  | passed {before r : List Token} {t : Token} {tags : List StartTag} {stop : Option Fault}
      (plain : ∀ n, t.levelAfter n = some n) (after : Resolved fault (before ++ [t]) r tags stop) :
      Resolved fault before (t :: r) tags stop
  | unreadable {before r : List Token} {name : List Char} {f : EscapeFault}
      (read : expand name 1 (1 + byteSize name) = .error f) :
      Resolved fault before (.reference name :: r) [] (some (.escape f))

/-- In the scopes of the open elements, prefixes are resolved to what they stand for. -/
theorem resolved_read (fault : Option Fault) {s : Scopes} {before ts : List Token}
    (h : s.IsAfter before) (nested : IsNested (before ++ ts)) :
    Resolved fault before ts (s.read ts).1 (faultAfter fault (s.read ts).2) := by
  induction ts generalizing s before with
  | nil => exact .done
  | cons t r ih =>
    rw [List.append_cons] at nested
    rw [Scopes.read]
    have effect := t.effect_read s
    cases ht : t.read s with
    | ok next =>
      have after := ih (h.step nested.of_append ht) nested
      rw [ht] at effect
      cases effect with
      | begins read space name address known =>
        exact .element space name ((h.push read).standsFor_iff.2 address) known after
      | ends => exact .ended after
      | passes plain => exact .passed plain after
    | error f =>
      rw [ht] at effect
      cases effect with
      | rejected read prefixed nothing =>
        exact .rejected read prefixed ((h.push read).standsFor_iff.2 nothing)
      | malformed read => exact .malformed read
      | unreadable read => exact .unreadable read

/-- What reading tokens from the start of a document gives, with the fault after them. -/
def reading (source : List UInt8) (stop : Nat) (fault : Option Fault) (ts : List (Nat × Token)) :
    Events :=
  eventsFrom stop fault (.start source) ⟨.outermost, .none⟩ ts

section

variable (source : List UInt8) (stop : Nat)

theorem startTags_reading (fault : Option Fault) (ts : List (Nat × Token)) :
    startTags (reading source stop fault ts).items = (Scopes.outermost.read (ts.map (·.2))).1 :=
  (startTags_eventsFrom stop fault (.start source) ⟨.outermost, .none⟩ ts).1

theorem fault_reading (fault : Option Fault) (ts : List (Nat × Token)) :
    (reading source stop fault ts).fault =
      faultAfter fault (Scopes.outermost.read (ts.map (·.2))).2 :=
  (startTags_eventsFrom stop fault (.start source) ⟨.outermost, .none⟩ ts).2

variable {source stop}

/-- Tokens without a fault lead to some scopes. -/
theorem exists_read_of_sound {ts : List (Nat × Token)}
    (sound : (reading source stop none ts).fault = none) :
    ∃ s, (Scopes.outermost.read (ts.map (·.2))).2 = .ok s := by
  rw [fault_reading] at sound
  cases h : (Scopes.outermost.read (ts.map (·.2))).2 with
  | error f =>
    rw [h] at sound
    cases sound
  | ok s => exact ⟨s, rfl⟩

/-- A start tag with a prefix is rejected if that stands for nothing, and only then. -/
theorem rejected_iff {before : List (Nat × Token)} {inside : List Char} {all : List Attribute}
    (offset : Nat) (nested : IsNested (before.map (·.2)))
    (sound : (reading source stop none before).fault = none)
    (read : attributes inside = .ok all) (prefixed : (splitName (tagName inside)).1 ≠ none) :
    (reading source stop none (before ++ [(offset, .openTag inside)])).fault ≠ none ↔
      StandsFor (before.map (·.2) ++ [.openTag inside]) (splitName (tagName inside)).1 none := by
  obtain ⟨s, hs⟩ := exists_read_of_sound sound
  have start : Scopes.outermost.IsAfter [] := .outermost rfl
  have outer : s.IsAfter (before.map (·.2)) := start.read nested hs
  have effect := Token.effect_read s (.openTag inside)
  rw [(outer.push read).standsFor_iff, fault_reading, List.map_append,
    Scopes.read_append_of_ok hs, List.map_singleton, Scopes.read]
  cases ht : Token.read s (.openTag inside) with
  | error f =>
    rw [ht] at effect
    cases effect with
    | rejected read' _ nothing =>
      cases read.symm.trans read'
      exact iff_of_true nofun nothing
    | malformed read' => exact nomatch read.symm.trans read'
  | ok next =>
    rw [ht] at effect
    cases effect with
    | begins read' space _ address known =>
      cases read.symm.trans read'
      rw [space] at address known
      exact iff_of_false (fun fault => fault rfl) (address ▸ known prefixed)
    | passes plain => exact nomatch plain 0

/-- Complete elements make no difference to what is reported of the tokens after them. -/
theorem exists_startTags_of_complete {before closed : List (Nat × Token)} (fault : Option Fault)
    (after : List (Nat × Token)) (complete : depthAfter 0 (closed.map (·.2)) = some 0)
    (sound : (reading source stop none (before ++ closed)).fault = none) :
    ∃ outer inner later,
      startTags (reading source stop none before).items = outer ∧
      startTags (reading source stop none (before ++ closed)).items = outer ++ inner ∧
      startTags (reading source stop fault (before ++ after)).items = outer ++ later ∧
      startTags (reading source stop fault (before ++ closed ++ after)).items =
        outer ++ inner ++ later ∧
      (reading source stop fault (before ++ closed ++ after)).fault =
        (reading source stop fault (before ++ after)).fault := by
  obtain ⟨s', hs'⟩ := exists_read_of_sound sound
  rw [List.map_append] at hs'
  obtain ⟨s, hs, closing⟩ := Scopes.exists_read_of_append hs'
  -- the scopes after the complete elements are the ones before them
  obtain rfl : s' = s := congrArg Scopes.mk (Scopes.drop_scopes_of_read closing complete)
  let next (ts : List (Nat × Token)) := s'.read (ts.map (·.2))
  have onward (ts : List (Nat × Token)) : Scopes.outermost.read ((before ++ ts).map (·.2)) =
      ((Scopes.outermost.read (before.map (·.2))).1 ++ (next ts).1, (next ts).2) := by
    rw [List.map_append, Scopes.read_append_of_ok hs]
  have further : next (closed ++ after) = ((next closed).1 ++ (next after).1, (next after).2) := by
    unfold next
    rw [List.map_append, Scopes.read_append_of_ok closing]
  refine ⟨_, (next closed).1, (next after).1, startTags_reading source stop none before, ?_, ?_,
    ?_, ?_⟩
  · rw [startTags_reading, onward]
  · rw [startTags_reading, onward]
  · rw [startTags_reading, List.append_assoc, onward, further, List.append_assoc]
  · rw [fault_reading, fault_reading, List.append_assoc, onward, further, onward]

end

/-- As long as no end tag comes before its start tag, and so in every document, a start tag is
reported with the address that its prefix stands for by the tags before it, and one with a prefix is
rejected exactly if that stands for nothing. What is reported after complete elements is what is
reported without them. -/
theorem resolved_of_nested :
    (∀ (source : List UInt8) (stop : Nat) (fault : Option Fault) (ts : List (Nat × Token)),
      IsNested (ts.map (·.2)) →
        Resolved fault [] (ts.map (·.2)) (startTags (reading source stop fault ts).items)
          (reading source stop fault ts).fault) ∧
      (∀ document : String,
        Resolved (tokens document.toList).fault [] ((tokens document.toList).items.map (·.2))
          (startTags (events document).items) (events document).fault) ∧
      (∀ (source : List UInt8) (stop : Nat) (before : List (Nat × Token)) (offset : Nat)
        (inside : List Char) (all : List Attribute), IsNested (before.map (·.2)) →
        (reading source stop none before).fault = none → attributes inside = .ok all →
        (splitName (tagName inside)).1 ≠ none →
          ((reading source stop none (before ++ [(offset, .openTag inside)])).fault ≠ none ↔
            StandsFor (before.map (·.2) ++ [.openTag inside]) (splitName (tagName inside)).1
              none)) ∧
      ∀ (source : List UInt8) (stop : Nat) (fault : Option Fault)
        (before closed after : List (Nat × Token)), depthAfter 0 (closed.map (·.2)) = some 0 →
        (reading source stop none (before ++ closed)).fault = none →
          ∃ outer inner later,
            startTags (reading source stop none before).items = outer ∧
            startTags (reading source stop none (before ++ closed)).items = outer ++ inner ∧
            startTags (reading source stop fault (before ++ after)).items = outer ++ later ∧
            startTags (reading source stop fault (before ++ closed ++ after)).items =
              outer ++ inner ++ later ∧
            (reading source stop fault (before ++ closed ++ after)).fault =
              (reading source stop fault (before ++ after)).fault := by
  have start : Scopes.outermost.IsAfter [] := .outermost rfl
  have all (source : List UInt8) (stop : Nat) (fault : Option Fault) (ts : List (Nat × Token))
      (nested : IsNested (ts.map (·.2))) :
      Resolved fault [] (ts.map (·.2)) (startTags (reading source stop fault ts).items)
        (reading source stop fault ts).fault := by
    rw [startTags_reading, fault_reading]
    exact resolved_read fault start nested
  refine ⟨all, fun document => ?_, ?_, ?_⟩
  · exact all _ _ _ _ (isNested_tokens document.toList)
  · intro source stop before offset inside all nested sound read prefixed
    exact rejected_iff offset nested sound read prefixed
  · intro source stop fault before closed after complete sound
    exact exists_startTags_of_complete fault after complete sound

/-- The tags of an element `a` that holds an element `p:b` with other declarations, elements after it
and at last one whose prefix is not declared. -/
def redeclaring : List (Nat × Token) :=
  [(0, .openTag "a xmlns='u' xmlns:p='v'".toList), (1, .openTag "p:b xmlns='' xmlns:p='w'".toList),
    (2, .openTag "c".toList), (3, .closeTag), (4, .closeTag), (5, .openTag "d".toList), (6, .closeTag),
    (7, .openTag "p:e".toList), (8, .closeTag), (9, .openTag "bxml:f".toList), (10, .closeTag),
    (11, .openTag "q:g".toList), (12, .closeTag), (13, .closeTag)]

/-- What `p:b` declares holds in it alone, and `q:g` is rejected. -/
theorem resolved_of_nested_redeclaring :
    IsNested (redeclaring.map (·.2)) ∧
      Resolved none [] (redeclaring.map (·.2))
        [⟨some "u", none, "a", []⟩, ⟨some "w", some "p", "b", []⟩, ⟨none, none, "c", []⟩,
          ⟨some "u", none, "d", []⟩, ⟨some "v", some "p", "e", []⟩,
          ⟨some controlNamespace, some controlPrefix, "f", []⟩]
        (some (.undeclaredPrefix "q:g")) ∧
      StandsFor ((redeclaring.take 12).map (·.2)) (some "q") none ∧
      ∃ later,
        startTags (reading [] 0 none (redeclaring.take 1 ++ redeclaring.drop 5)).items =
          [⟨some "u", none, "a", []⟩] ++ later ∧
        startTags (reading [] 0 none redeclaring).items =
          [⟨some "u", none, "a", []⟩, ⟨some "w", some "p", "b", []⟩, ⟨none, none, "c", []⟩] ++
            later := by
  have nested : IsNested (redeclaring.map (·.2)) := by decide +kernel
  have tags : startTags (reading [] 0 none redeclaring).items =
      [⟨some "u", none, "a", []⟩, ⟨some "w", some "p", "b", []⟩, ⟨none, none, "c", []⟩,
        ⟨some "u", none, "d", []⟩, ⟨some "v", some "p", "e", []⟩,
        ⟨some controlNamespace, some controlPrefix, "f", []⟩] := by decide +kernel
  have fault : (reading [] 0 none redeclaring).fault = some (.undeclaredPrefix "q:g") := by
    decide +kernel
  have rejected := resolved_of_nested.2.2.1 [] 0 (redeclaring.take 11) 11 "q:g".toList []
    (by decide +kernel) (by decide +kernel) (by rfl) (by decide +kernel)
  obtain ⟨outer, inner, later, first, whole, without, within, -⟩ :=
    resolved_of_nested.2.2.2 [] 0 none (redeclaring.take 1) ((redeclaring.drop 1).take 4)
      (redeclaring.drop 5) (by decide +kernel) (by decide +kernel)
  have opening : startTags (reading [] 0 none (redeclaring.take 1)).items =
      [⟨some "u", none, "a", []⟩] := by decide +kernel
  have complete : startTags
        (reading [] 0 none (redeclaring.take 1 ++ (redeclaring.drop 1).take 4)).items =
      [⟨some "u", none, "a", []⟩, ⟨some "w", some "p", "b", []⟩, ⟨none, none, "c", []⟩] := by
    decide +kernel
  refine ⟨nested, ?_, rejected.1 (by decide +kernel), later, ?_, ?_⟩
  · exact tags ▸ fault ▸ resolved_of_nested.1 [] 0 none redeclaring nested
  · rw [without, ← first, opening]
  · rw [← complete, whole]
    exact within

end Bxml.Xml
