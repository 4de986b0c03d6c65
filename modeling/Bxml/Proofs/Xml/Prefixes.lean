import Bxml.Proofs.Text.Blank
import Bxml.Proofs.Xml.Scanning
import Mathlib.Data.List.Nodup

/-!
# What prefixes stand for

A prefix stands for the address of its nearest declaration, on an element itself or on one around it.
This file reads that off the tokens, by the start tags whose elements are still open, and finds it
again in the scopes of these elements.

* `IsOpen` says which elements are open, and `IsOpen.trichotomy` that they are inside one another.
* `IsDeclared` and `IsUndeclared` look for the innermost of them that declares a prefix, and
  `StandsFor` is what the prefix stands for.
* `Scopes.IsAfter` ties scopes to open elements, with `pass`, `push` and `pop` for the kinds of
  tokens; `standsFor_iff` finds the address by a look at the scopes.
-/

namespace Bxml.Xml

/-! ## Declarations of a tag -/

/-- A name put together from its parts. -/
def joinName : Option String × String → List Char
  | (none, n) => n.toList
  | (some p, n) => p.toList ++ ':' :: n.toList

theorem joinName_splitName (l : List Char) : joinName (splitName l) = l := by
  unfold splitName
  dsimp only
  rw [Text.drop_length_takeWhile]
  split
  · rw [joinName, String.toList_ofList]
  · next c r h =>
    obtain rfl : c = ':' := by
      have stops := Text.head?_dropWhile_not (· != ':') l c (by rw [h]; rfl)
      simpa using stops
    rw [joinName, String.toList_ofList, String.toList_ofList, ← h]
    exact List.takeWhile_append_dropWhile

theorem splitName_injective : Function.Injective splitName :=
  Function.LeftInverse.injective joinName_splitName

/-- The name of an attribute that declares a prefix, or the default namespace. -/
def declaringName : Option String → Option String × String
  | none => (none, declarationWord)
  | some p => (some declarationWord, p)

theorem splitName_of_declaration? {a : Attribute} {name? : Option String} {uri : String}
    (h : declaration? a = some (name?, uri)) :
    splitName a.key = declaringName name? ∧ uri = String.ofList a.value := by
  unfold declaration? at h
  split at h
  · next n parts =>
    split at h
    · next word =>
      cases h
      exact ⟨parts.trans (word.symm ▸ rfl), rfl⟩
    · cases h
  · next p n parts =>
    split at h
    · next word =>
      cases h
      exact ⟨parts.trans (word.symm ▸ rfl), rfl⟩
    · cases h

theorem key_of_readValue {total position offset position' after : Nat}
    {key key' value l rest : List Char}
    (h : readValue total key position offset l = .next key' value position' after rest) :
    key' = key := by
  unfold readValue at h
  dsimp only at h
  repeat' split at h
  all_goals cases h
  rfl

theorem lookup_of_readAttribute {total offset position after : Nat} {seen : List (List Char × Nat)}
    {key value l rest : List Char}
    (h : readAttribute total seen offset l = .next key value position after rest) :
    seen.lookup key = none := by
  unfold readAttribute at h
  dsimp only at h
  split at h
  · cases h
  · split at h
    · cases h
    · split at h
      · cases h
      · split at h
        · cases h
        · next unseen =>
          rw [key_of_readValue h]
          exact unseen

/-- No two attributes of a tag have the same key, nor one that has been seen before. -/
theorem nodup_readAttributes {total fuel offset : Nat} {seen : List (List Char × Nat)}
    {l : List Char} {all : List Attribute}
    (h : readAttributes total fuel seen offset l = .ok all) :
    (all.map (·.key)).Nodup ∧ ∀ a ∈ all, seen.lookup a.key = none := by
  induction fuel generalizing seen offset l all with
  | zero =>
    cases h
    exact ⟨List.nodup_nil, List.forall_mem_nil _⟩
  | succ fuel ih =>
    rw [readAttributes] at h
    split at h
    · cases h
      exact ⟨List.nodup_nil, List.forall_mem_nil _⟩
    · cases h
    · next key value position after rest read =>
      cases hv : (unescape value).mapError Fault.escape with
      | error f =>
        rw [hv] at h
        cases h
      | ok v =>
        cases hmore : readAttributes total fuel ((key, position) :: seen) after rest with
        | error f =>
          rw [hv, hmore] at h
          cases h
        | ok more =>
          rw [hv, hmore] at h
          cases h
          obtain ⟨nodup, unseen⟩ := ih hmore
          have absent (a : Attribute) (ha : a ∈ more) : a.key ≠ key ∧ seen.lookup a.key = none := by
            have later := unseen a ha
            rw [List.lookup_cons] at later
            split at later
            · cases later
            · next h => exact ⟨fun same => by simp [same] at h, later⟩
          refine ⟨List.nodup_cons.2 ⟨fun mem => ?_, nodup⟩,
            List.forall_mem_cons.2 ⟨lookup_of_readAttribute read, fun a ha => (absent a ha).2⟩⟩
          obtain ⟨a, ha, same⟩ := List.mem_map.1 mem
          exact (absent a ha).1 same

/-- A start tag with the given inside declares a prefix, or the default namespace, for an address. -/
def Declares (inside : List Char) (name? : Option String) (uri : String) : Prop :=
  ∃ all, attributes inside = .ok all ∧ ∃ a ∈ all, declaration? a = some (name?, uri)

/-- A tag declares a prefix for one address only. -/
theorem Declares.unique {inside : List Char} {name? : Option String} {u v : String}
    (hu : Declares inside name? u) (hv : Declares inside name? v) : u = v := by
  obtain ⟨all, read, a, ha, declares⟩ := hu
  obtain ⟨all', read', b, hb, declares'⟩ := hv
  obtain rfl : all = all' := Except.ok.inj (read.symm.trans read')
  obtain ⟨ka, rfl⟩ := splitName_of_declaration? declares
  obtain ⟨kb, rfl⟩ := splitName_of_declaration? declares'
  have same : a.key = b.key := splitName_injective (ka.trans kb.symm)
  rw [List.inj_on_of_nodup_map (nodup_readAttributes read).1 ha hb same]

/-- What is found among the declarations of a tag is what it declares. -/
theorem lookup_declarations_iff {inside : List Char} {all : List Attribute}
    (read : attributes inside = .ok all) {name? : Option String} {uri : String} :
    (all.filterMap declaration?).lookup name? = some uri ↔ Declares inside name? uri := by
  have declares_of_lookup {u : String}
      (h : (all.filterMap declaration?).lookup name? = some u) : Declares inside name? u := by
    obtain ⟨front, rest, split, -⟩ := List.lookup_eq_some_iff.1 h
    have mem : (name?, u) ∈ all.filterMap declaration? := by
      rw [split]
      exact List.mem_append_right _ List.mem_cons_self
    obtain ⟨a, ha, declares⟩ := List.mem_filterMap.1 mem
    exact ⟨all, read, a, ha, declares⟩
  refine ⟨declares_of_lookup, fun h => ?_⟩
  cases found : (all.filterMap declaration?).lookup name? with
  | some u => rw [(declares_of_lookup found).unique h]
  | none =>
    obtain ⟨all', read', a, ha, declares⟩ := h
    obtain rfl : all = all' := Except.ok.inj (read.symm.trans read')
    have differs := List.lookup_eq_none_iff.1 found _ (List.mem_filterMap.2 ⟨a, ha, declares⟩)
    exact absurd rfl (bne_iff_ne.1 differs)

/-! ## Open elements -/

/-- After the tokens `ts` the element is open whose start tag has the given inside. Since that tag
the tokens `later` have been read, and none of them ends the element. -/
structure IsOpen (ts : List Token) (inside : List Char) (later : List Token) : Prop where
  began : Token.openTag inside :: later <:+ ts
  unended : IsNested later

/-- Complete elements leave none open. -/
theorem not_isOpen_of_complete {ts later : List Token} {inside : List Char}
    (h : depthAfter 0 ts = some 0) : ¬ IsOpen ts inside later := by
  rintro ⟨⟨earlier, rfl⟩, unended⟩
  rw [depthAfter_append] at h
  obtain ⟨n, -, rest⟩ := Option.bind_eq_some_iff.1 h
  rw [depthAfter_cons] at rest
  obtain ⟨m, hm⟩ := Option.ne_none_iff_exists'.1 unended
  have more : depthAfter (0 + (n + 1)) later = some (m + (n + 1)) := depthAfter_add hm _
  rw [Nat.zero_add] at more
  have ended : m + (n + 1) = 0 := Option.some.inj (more.symm.trans rest)
  omega

/-- After an element has begun and others in it have ended, the open elements are that one and the
ones around it. -/
theorem isOpen_append_cons_iff {ts closed later : List Token} {inside inside' : List Char}
    (complete : depthAfter 0 closed = some 0) :
    IsOpen (ts ++ .openTag inside :: closed) inside' later ↔
      inside' = inside ∧ later = closed ∨
        ∃ l, IsOpen ts inside' l ∧ later = l ++ .openTag inside :: closed := by
  constructor
  · rintro ⟨⟨front, h⟩, unended⟩
    rcases List.append_eq_append_iff.1 h with ⟨_ | ⟨t, l⟩, hts, hl⟩ | ⟨_ | ⟨t, l⟩, hts, hl⟩
    · cases hl
      exact .inl ⟨rfl, rfl⟩
    · cases hl
      exact .inr ⟨l, ⟨⟨front, hts.symm⟩, unended.of_append⟩, rfl⟩
    · cases hl
      exact .inl ⟨rfl, rfl⟩
    · cases hl
      exact absurd ⟨⟨l, rfl⟩, unended⟩ (not_isOpen_of_complete complete)
  · rintro (⟨rfl, rfl⟩ | ⟨l, ⟨⟨front, rfl⟩, unended⟩, rfl⟩)
    · exact ⟨List.suffix_append _ _, fun none => nomatch none.symm.trans complete⟩
    · refine ⟨⟨front, (List.append_assoc front (_ :: l) _).symm⟩, fun none => ?_⟩
      obtain ⟨m, hm⟩ := Option.ne_none_iff_exists'.1 unended
      rw [depthAfter_append, hm] at none
      exact nomatch none.symm.trans (depthAfter_of_complete complete (m + 1))

/-- Of two open elements one is in the other. -/
theorem IsOpen.trichotomy {ts later later' : List Token} {inside inside' : List Char}
    (h : IsOpen ts inside later) (h' : IsOpen ts inside' later') :
    inside = inside' ∧ later = later' ∨ IsOpen later' inside later ∨ IsOpen later inside' later' := by
  rcases List.suffix_or_suffix_of_suffix h.began h'.began with first | first
  · rcases List.suffix_cons_iff.1 first with same | inner
    · cases same
      exact .inl ⟨rfl, rfl⟩
    · exact .inr (.inl ⟨inner, h.unended⟩)
  · rcases List.suffix_cons_iff.1 first with same | inner
    · cases same
      exact .inl ⟨rfl, rfl⟩
    · exact .inr (.inr ⟨inner, h'.unended⟩)

/-! ## What a prefix stands for -/

/-- No open element declares a prefix. -/
def IsUndeclared (ts : List Token) (name? : Option String) : Prop :=
  ∀ inside later uri, IsOpen ts inside later → ¬ Declares inside name? uri

/-- The innermost open element that declares a prefix declares it for the given address. -/
def IsDeclared (ts : List Token) (name? : Option String) (uri : String) : Prop :=
  ∃ inside later, IsOpen ts inside later ∧ Declares inside name? uri ∧ IsUndeclared later name?

section

variable {ts closed : List Token} {inside : List Char} {name? : Option String} {uri : String}

theorem isUndeclared_of_complete (h : depthAfter 0 ts = some 0) : IsUndeclared ts name? :=
  fun _ _ _ opened => absurd opened (not_isOpen_of_complete h)

theorem IsDeclared.not_isUndeclared (h : IsDeclared ts name? uri) : ¬ IsUndeclared ts name? := by
  obtain ⟨inside, later, opened, declares, -⟩ := h
  exact fun undeclared => undeclared inside later uri opened declares

theorem IsDeclared.unique {u v : String} (hu : IsDeclared ts name? u)
    (hv : IsDeclared ts name? v) : u = v := by
  obtain ⟨inside, later, opened, declares, nearest⟩ := hu
  obtain ⟨inside', later', opened', declares', nearest'⟩ := hv
  rcases opened.trichotomy opened' with ⟨rfl, -⟩ | inner | inner
  · exact declares.unique declares'
  · exact absurd declares (nearest' inside later u inner)
  · exact absurd declares' (nearest inside' later' v inner)

/-- What an element declares is declared in it, after complete elements too. -/
theorem Declares.isDeclared (h : Declares inside name? uri)
    (complete : depthAfter 0 closed = some 0) :
    IsDeclared (ts ++ .openTag inside :: closed) name? uri :=
  ⟨inside, closed, (isOpen_append_cons_iff complete).2 (.inl ⟨rfl, rfl⟩), h,
    isUndeclared_of_complete complete⟩

/-- What an element does not declare is undeclared in it if it is so around it. -/
theorem IsUndeclared.append_cons (h : IsUndeclared ts name?)
    (own : ∀ uri, ¬ Declares inside name? uri) (complete : depthAfter 0 closed = some 0) :
    IsUndeclared (ts ++ .openTag inside :: closed) name? := by
  intro inside' later uri opened
  rcases (isOpen_append_cons_iff complete).1 opened with ⟨rfl, -⟩ | ⟨l, outer, -⟩
  · exact own uri
  · exact h inside' l uri outer

/-- What an element does not declare is declared in it as it is around it. -/
theorem IsDeclared.append_cons (h : IsDeclared ts name? uri)
    (own : ∀ uri, ¬ Declares inside name? uri) (complete : depthAfter 0 closed = some 0) :
    IsDeclared (ts ++ .openTag inside :: closed) name? uri := by
  obtain ⟨inside', later, opened, declares, nearest⟩ := h
  exact ⟨inside', _, (isOpen_append_cons_iff complete).2 (.inr ⟨later, opened, rfl⟩), declares,
    nearest.append_cons own complete⟩

end

/-- The address a prefix stands for after some tokens, the start tag with the prefix included. One
prefix is fixed. Any other has the address of its nearest declaration, and none if that is empty. The
control prefix is declared around the document. -/
inductive StandsFor (ts : List Token) : Option String → Option String → Prop
  | fixed : StandsFor ts (some xmlPrefix) (some xmlNamespace)
  | declared {name? : Option String} {uri : String} (h : name? ≠ some xmlPrefix)
      (nearest : IsDeclared ts name? uri) (nonempty : uri ≠ "") : StandsFor ts name? (some uri)
  | undone {name? : Option String} (h : name? ≠ some xmlPrefix)
      (nearest : IsDeclared ts name? "") : StandsFor ts name? none
  | control (h : IsUndeclared ts (some controlPrefix)) :
      StandsFor ts (some controlPrefix) (some controlNamespace)
  | undeclared {name? : Option String} (h : IsUndeclared ts name?)
      (plain : name? ≠ some xmlPrefix) (foreign : name? ≠ some controlPrefix) :
      StandsFor ts name? none

/-! ## Scopes of the open elements -/

/-- Around a document the control prefix alone is declared. -/
theorem Scopes.lookup_outermost {name? : Option String} (h : name? ≠ some controlPrefix) :
    Scopes.outermost.scopes.flatten.lookup name? = none := by
  refine List.lookup_eq_none_iff.2 fun p hp => ?_
  obtain rfl : p = (some controlPrefix, controlNamespace) := List.mem_singleton.1 hp
  exact bne_iff_ne.2 h

/-- The scopes after some tokens are those of the elements that are open, around complete ones. -/
inductive Scopes.IsAfter : Scopes → List Token → Prop
  | outermost {ts : List Token} (complete : depthAfter 0 ts = some 0) : IsAfter .outermost ts
  | inside {s : Scopes} {ts closed : List Token} {inside : List Char} {all : List Attribute}
      (outer : s.IsAfter ts) (read : attributes inside = .ok all)
      (complete : depthAfter 0 closed = some 0) :
      IsAfter (s.push (all.filterMap declaration?)) (ts ++ .openTag inside :: closed)

namespace Scopes.IsAfter

variable {s : Scopes} {ts : List Token}

theorem append_complete (h : s.IsAfter ts) {closed : List Token}
    (complete : depthAfter 0 closed = some 0) : s.IsAfter (ts ++ closed) := by
  cases h with
  | outermost outer => exact .outermost (by rw [depthAfter_append, outer]; exact complete)
  | inside outer read inner =>
    rw [List.append_assoc, List.cons_append]
    exact .inside outer read (by rw [depthAfter_append, inner]; exact complete)

/-- A token that is no tag leaves the scopes. -/
theorem pass (h : s.IsAfter ts) {t : Token} (ht : ∀ n, t.levelAfter n = some n) :
    s.IsAfter (ts ++ [t]) :=
  h.append_complete (by rw [depthAfter_cons, ht]; rfl)

theorem push (h : s.IsAfter ts) {inside : List Char} {all : List Attribute}
    (read : attributes inside = .ok all) :
    (s.push (all.filterMap declaration?)).IsAfter (ts ++ [.openTag inside]) :=
  .inside h read rfl

theorem pop (h : s.IsAfter ts) (nested : IsNested (ts ++ [.closeTag])) :
    s.pop.IsAfter (ts ++ [.closeTag]) := by
  cases h with
  | outermost complete =>
    refine absurd ?_ nested
    rw [depthAfter_append, complete]
    rfl
  | inside outer read complete =>
    rw [List.append_assoc, List.cons_append]
    refine outer.append_complete ((depthAfter_append 1 _ _).trans ?_)
    rw [depthAfter_of_complete complete]
    rfl

/-- Scopes of open elements hold what these declare, the innermost first. -/
theorem lookup_cases (h : s.IsAfter ts) (name? : Option String) :
    (∃ uri, IsDeclared ts name? uri ∧ s.scopes.flatten.lookup name? = some uri) ∨
      IsUndeclared ts name? ∧
        s.scopes.flatten.lookup name? = Scopes.outermost.scopes.flatten.lookup name? := by
  induction h with
  | outermost complete => exact .inr ⟨isUndeclared_of_complete complete, rfl⟩
  | @inside s ts closed inside all outer read complete ih =>
    have both : (s.push (all.filterMap declaration?)).scopes.flatten.lookup name? =
        ((all.filterMap declaration?).lookup name?).or (s.scopes.flatten.lookup name?) :=
      List.lookup_append
    rw [both]
    cases found : (all.filterMap declaration?).lookup name? with
    | some uri =>
      exact .inl ⟨uri, ((lookup_declarations_iff read).1 found).isDeclared complete, rfl⟩
    | none =>
      have own (uri : String) (declares : Declares inside name? uri) : False :=
        nomatch found.symm.trans ((lookup_declarations_iff read).2 declares)
      rcases ih with ⟨uri, nearest, around⟩ | ⟨none, around⟩
      · exact .inl ⟨uri, nearest.append_cons own complete, around⟩
      · exact .inr ⟨none.append_cons own complete, around⟩

theorem lookup_of_isDeclared (h : s.IsAfter ts) {name? : Option String} {uri : String}
    (nearest : IsDeclared ts name? uri) : s.scopes.flatten.lookup name? = some uri := by
  rcases h.lookup_cases name? with ⟨uri', nearest', found⟩ | ⟨none, -⟩
  · rw [found, nearest.unique nearest']
  · exact absurd none nearest.not_isUndeclared

theorem lookup_of_isUndeclared (h : s.IsAfter ts) {name? : Option String}
    (none : IsUndeclared ts name?) :
    s.scopes.flatten.lookup name? = Scopes.outermost.scopes.flatten.lookup name? := by
  rcases h.lookup_cases name? with ⟨uri, nearest, -⟩ | ⟨-, found⟩
  · exact absurd none nearest.not_isUndeclared
  · exact found

/-- A prefix stands for what it is resolved to in the scopes. -/
theorem standsFor_iff (h : s.IsAfter ts) {name? uri? : Option String} :
    StandsFor ts name? uri? ↔ s.resolve name? = uri? := by
  have resolved (hn : name? ≠ some xmlPrefix) :
      s.resolve name? = (s.scopes.flatten.lookup name?).filter (· != "") := if_neg hn
  constructor
  · rintro (_ | ⟨plain, nearest, nonempty⟩ | ⟨plain, nearest⟩ | none | ⟨none, plain, foreign⟩)
    · exact if_pos rfl
    · rw [resolved plain, h.lookup_of_isDeclared nearest]
      exact if_pos (bne_iff_ne.2 nonempty)
    · rw [resolved plain, h.lookup_of_isDeclared nearest]
      rfl
    · rw [resolved (by decide), h.lookup_of_isUndeclared none]
      rfl
    · rw [resolved plain, h.lookup_of_isUndeclared none, lookup_outermost foreign]
      rfl
  · rintro rfl
    by_cases plain : name? = some xmlPrefix
    · subst plain
      exact .fixed
    · rw [resolved plain]
      rcases h.lookup_cases name? with ⟨uri, nearest, found⟩ | ⟨none, found⟩
      · rw [found]
        by_cases empty : uri = ""
        · subst empty
          exact .undone plain nearest
        · have kept : (some uri).filter (· != "") = some uri := if_pos (bne_iff_ne.2 empty)
          rw [kept]
          exact .declared plain nearest empty
      · rw [found]
        by_cases control : name? = some controlPrefix
        · subst control
          exact .control none
        · rw [lookup_outermost control]
          exact .undeclared none plain control

end Scopes.IsAfter

end Bxml.Xml
