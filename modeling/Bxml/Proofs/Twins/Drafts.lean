import Bxml.Load.Document
import Bxml.Proofs.Twins.Propagation

/-!
# Twin documents

Two documents under construction are the same if their open elements, their bindings and what has a
parent in them correspond.  One of them may have more elements and bindings below, the ground that it
is built on; then the context of the other one holds what is there.

* `Faults` says how failures are compared, by what they say and by where they occur.
* `Ground` is what one document has below, `SameParts` and `SameDraft` compare documents above it,
  and `SameScope` and `SameContext` what they know of their surroundings.
* `SameNested` and `SameDepth` compare ways to include documents; one of two may go deeper.
* `Uniform` collects what is asked of a loader, and `SameParts.held` says that what is held while
  the two are built is the same.
-/

namespace Bxml

/-- How failures of loads are compared. A failure counts for as much in an included document. -/
structure Faults extends Failing LoadError where
  included {u : Url} {e e' : LoadError} : same e e' → same (.included u e) (.included u e')
  lost_included {u : Url} {e : LoadError} : lost e → lost (.included u e)

namespace Faults

/-- Failures are the same if they are equal. -/
def exact : Faults where
  toFailing := .exact LoadError
  included h := congrArg _ h
  lost_included := id

variable (F : Faults)

/-- Whether the same structural fault at two places is the same failure. -/
def Located (at_ at' : Location) : Prop :=
  ∀ f, F.same (.structural f at_) (.structural f at')

theorem located_refl (at_ : Location) : F.Located at_ at_ := fun _ => F.refl _

end Faults

/-- What one of two documents has below the part that is compared. -/
structure Ground where
  stack : List Element
  root : Option Value
  bindings : List PendingBinding
  /-- The objects that had a parent before. -/
  parented : List ObjectId
  /-- Those of them that the surroundings of the other document hold. -/
  handed : List ObjectId
  handed_subset : handed ⊆ parented
  /-- Only a document with open elements is built upon when it has a root. -/
  root_eq_none : stack = [] → root = none

namespace Ground

/-- Nothing, for a document before which some objects have a parent. -/
def bare (parented : List ObjectId) : Ground :=
  ⟨[], none, [], parented, [], List.nil_subset _, fun _ => rfl⟩

/-- The values that are held because of it. -/
def heldValues (G : Ground) : List Value :=
  G.stack.flatMap Element.heldValues ++ G.root.toList ++
    (G.bindings.map fun p => .object p.target) ++ G.handed.map .object

end Ground

namespace Twins

variable (S : Twins) (F : Faults) (l : Loader) (G : Ground)

/-- Whether two open elements are the same. -/
structure SameElement (e e' : Element) : Prop where
  kind : e.kind = e'.kind
  name : e.name = e'.name
  value : S.SameValue e.value e'.value
  id : e.id = e'.id
  control : e.control = e'.control
  attributes : Entries.Rel S.SameValue e.attributes e'.attributes
  attached : e.attached = e'.attached
  text : e.text = e'.text
  location : F.Located e.location e'.location

/-- Whether two pending bindings are the same. -/
structure SamePending (p p' : PendingBinding) : Prop where
  target : S.SameObject p.target p'.target
  targetKey : p.targetKey = p'.targetKey
  expression : p.expression = p'.expression
  location : F.Located p.location p'.location

/-- Whether the open elements of two documents are the same, above the ground. -/
structure SameStack (s s' : List Element) : Prop where
  above : ∃ top, s' = top ++ G.stack ∧ List.Forall₂ (S.SameElement F) s top
  ground : s ≠ [] ∨ G.stack = []

/-- Whether two documents under construction consist of the same, above the ground. -/
structure SameParts (d d' : Draft) : Prop where
  elements : ∃ top, d'.stack = top ++ G.stack ∧ List.Forall₂ (S.SameElement F) d.stack top
  root : Option.Rel S.SameValue d.root d'.root ∧ G.stack = [] ∨
    d.root = none ∧ d'.root = G.root
  bindings : ∃ rest, d'.bindings = G.bindings ++ rest ∧
    List.Forall₂ (S.SamePending F) d.bindings rest
  parented : S.SameMembers d.parented d'.parented
  kept : G.parented ⊆ d'.parented

/-- Whether two documents under construction are the same, above the ground. -/
structure SameDraft (d d' : Draft) : Prop extends S.SameParts F G d d' where
  ground : d.stack ≠ [] ∨ G.stack = []
  language : d.languageIn l = d'.languageIn l
  settled : d.language.isSome = d'.language.isSome

/-- Whether two documents see the same, if the second is built on the ground. -/
structure SameScope (c c' : DocumentContext) : Prop where
  table : S.SameTable c.table c'.table
  bundle : Option.Rel S.SameBundle c.bundle c'.bundle
  held : S.SameHeld (c.held.keepTable c.table) ((c'.held.keep G.heldValues).keepTable c'.table)

/-- Whether two documents know the same of their surroundings. -/
structure SameContext (c c' : DocumentContext) : Prop extends S.SameScope G c c' where
  location : c.location = c'.location

/-- Whether two loads come to the same. No object loses its parent. -/
structure SameLoaded (parented' : List ObjectId) (x x' : Outcome × List ObjectId) : Prop where
  root : S.SameValue x.1.root x'.1.root
  table : S.SameTable x.1.table x'.1.table
  location : x.1.location = x'.1.location
  parented : S.SameMembers x.2 x'.2
  kept : parented' ⊆ x'.2

/-- Whether two ways to load included documents do the same. -/
def SameNested (n n' : NestedLoad) : Prop :=
  ∀ {c c' : DocumentContext} {parented parented' : List ObjectId} (source : String),
    S.SameContext (.bare parented') c c' → S.SameMembers parented parented' →
      S.SameOp F.toFailing (S.SameLoaded parented') (n c parented source) (n' c' parented' source)

/-- Whether documents are included in the same way, if at all. The second document may include
documents where the first one is too deep for it, if that failure says nothing. -/
inductive SameDepth : Option NestedLoad → Option NestedLoad → Prop
  | none : SameDepth .none .none
  | some {n n' : NestedLoad} : S.SameNested F n n' → SameDepth (.some n) (.some n')
  | lost {n : Option NestedLoad} :
      (∀ src at_, F.lost (.structural (.tooDeep src l.maxDepth) at_)) → SameDepth .none n

/-- Whether what a load needs from outside does the same in twin worlds. -/
structure Uniform : Prop where
  host : l.host.Uniform S
  construct (typeName : String) : S.SameOp (.exact _) S.SameObject (l.factory.construct typeName)
    (l.factory.construct typeName)
  attach {h h' : Held} {o p : ObjectId} {v v' : Value} (owner property : String) :
    S.SameHeld h h' → S.SameObject o p → S.SameValue v v' → S.SameOp (.exact _) Eq
      (l.factory.attach h owner property o v) (l.factory.attach h' owner property p v')

variable {S F l G}

namespace SameElement

variable {e e' : Element}

theorem heldValues (h : S.SameElement F e e') :
    List.Forall₂ S.SameValue e.heldValues e'.heldValues :=
  .cons h.value h.attributes.values

theorem withValue (h : S.SameElement F e e') {v v' : Value} (hv : S.SameValue v v') :
    S.SameElement F { e with value := v } { e' with value := v' } :=
  { h with value := hv }

theorem new (kind : ElementKind) (name : String) {v v' : Value} (hv : S.SameValue v v')
    {at_ at' : Location} (hl : F.Located at_ at') :
    S.SameElement F (.new kind name v at_) (.new kind name v' at') :=
  ⟨rfl, rfl, hv, rfl, rfl, .empty, rfl, rfl, hl⟩

end SameElement

namespace SameStack

variable {s s' : List Element} {e e' : Element}

theorem nil (parented : List ObjectId) : S.SameStack F (.bare parented) [] [] :=
  ⟨⟨[], rfl, .nil⟩, .inr rfl⟩

theorem cons (h : S.SameStack F G s s') (he : S.SameElement F e e') :
    S.SameStack F G (e :: s) (e' :: s') := by
  obtain ⟨⟨top, rfl, ht⟩, -⟩ := h
  exact ⟨⟨e' :: top, rfl, .cons he ht⟩, .inl nofun⟩

/-- Both or neither of two documents have an open element. -/
theorem nil_or_cons (h : S.SameStack F G s s') :
    (s = [] ∧ s' = []) ∨ ∃ e e' r r', s = e :: r ∧ s' = e' :: r' ∧ S.SameElement F e e' ∧
      (r ≠ [] ∨ G.stack = [] → S.SameStack F G r r') := by
  obtain ⟨⟨top, rfl, ht⟩, hg⟩ := h
  cases ht with
  | nil => exact .inl ⟨rfl, by simpa using hg⟩
  | cons he ht => exact .inr ⟨_, _, _, _, rfl, rfl, he, fun hg => ⟨⟨_, rfl, ht⟩, hg⟩⟩

/-- The innermost elements are replaced by others. -/
theorem replace {r r' : List Element} {a a' : Element} (h : S.SameStack F G (a :: r) (a' :: r'))
    (he : S.SameElement F e e') : S.SameStack F G (e :: r) (e' :: r') := by
  obtain ⟨⟨top, hs, ht⟩, -⟩ := h
  cases ht with
  | cons _ ht =>
    obtain ⟨rfl, rfl⟩ := List.cons.inj hs
    exact ⟨⟨e' :: _, rfl, .cons he ht⟩, .inl nofun⟩

theorem isEmpty (h : S.SameStack F G s s') : s.isEmpty = s'.isEmpty := by
  obtain ⟨rfl, rfl⟩ | ⟨e, e', r, r', rfl, rfl, -, -⟩ := h.nil_or_cons <;> rfl

theorem head? (h : S.SameStack F G s s') : Option.Rel (S.SameElement F) s.head? s'.head? := by
  obtain ⟨rfl, rfl⟩ | ⟨e, e', r, r', rfl, rfl, he, -⟩ := h.nil_or_cons
  · exact .none
  · exact .some he

end SameStack

theorem SameContext.bare {c c' : DocumentContext} {p : List ObjectId}
    (h : S.SameContext (.bare p) c c') (q : List ObjectId) : S.SameContext (.bare q) c c' :=
  { h with }

/-- What is held while two documents are built is the same. -/
theorem SameParts.held {d d' : Draft} {c c' : DocumentContext} (h : S.SameParts F G d d')
    (hc : S.SameScope G c c') {more more' : List Value} (hm : List.Forall₂ S.SameValue more more') :
    S.SameHeld (d.held c more) (d'.held c' more') := by
  obtain ⟨top, hs, elements⟩ := h.elements
  obtain ⟨rest, hb, pending⟩ := h.bindings
  refine ⟨fun {o p} ho => ?_, hc.held.tables,
    fun ho => (hc.held.shared ho).imp_left (List.mem_append_right _)⟩
  have open_ : .object o ∈ d.stack.flatMap Element.heldValues ↔
      .object p ∈ top.flatMap Element.heldValues :=
    mem_iff (List.rel_flatMap elements fun _ _ he => he.heldValues) ho
  have root : .object o ∈ d.root.toList ∨ .object p ∈ G.root.toList ↔
      .object p ∈ d'.root.toList ∨ .object p ∈ G.root.toList := by
    obtain ⟨hr, hg⟩ | ⟨hr, hr'⟩ := h.root
    · obtain ⟨hr, hr'⟩ | ⟨v, v', hr, hr', hv⟩ := hr.none_or_some
      · rw [hr, hr']
        simp
      · rw [hr, hr']
        exact or_congr (mem_iff (.cons hv .nil) ho) Iff.rfl
    · rw [hr, hr']
      simp
  have rooted : .object p ∈ G.root.toList → .object p ∈ d'.root.toList := by
    obtain ⟨-, hg⟩ | ⟨-, hr'⟩ := h.root
    · rw [G.root_eq_none hg]
      exact fun hp => (List.not_mem_nil hp).elim
    · rw [hr']
      exact id
  have bound : .object o ∈ d.bindings.map (fun p => Value.object p.target) ↔
      .object p ∈ rest.map (fun p => Value.object p.target) := by
    refine mem_iff ?_ ho
    rw [List.forall₂_map_left_iff, List.forall₂_map_right_iff]
    exact pending.imp fun _ _ hp => .object hp.target
  have parented : .object o ∈ d.parented.map Value.object ↔
      .object p ∈ d'.parented.map Value.object := h.parented.values ho
  have above := mem_iff hm ho
  have outside := hc.held.values ho
  have kept : .object p ∈ G.handed.map Value.object →
      .object p ∈ d'.parented.map Value.object := by
    simp only [List.mem_map, Value.object.injEq, exists_eq_right]
    exact fun hp => h.kept (G.handed_subset hp)
  simp only [Held.keep, Held.keepTable, Ground.heldValues, List.mem_append] at outside
  simp only [Draft.held, Held.keep, Held.keepTable, Draft.heldValues, List.mem_append, hs, hb,
    List.flatMap_append, List.map_append, open_, bound, parented, above, outside]
  clear open_ bound parented above outside
  grind

namespace SameDraft

variable {d d' : Draft} {c c' : DocumentContext}

theorem stack (h : S.SameDraft F l G d d') : S.SameStack F G d.stack d'.stack :=
  ⟨h.elements, h.ground⟩

theorem start {parented parented' : List ObjectId} (h : S.SameMembers parented parented') :
    S.SameDraft F l (.bare parented') (.start parented) (.start parented') where
  elements := ⟨[], rfl, .nil⟩
  root := .inl ⟨.none, rfl⟩
  bindings := ⟨[], rfl, .nil⟩
  parented := h
  kept := List.Subset.refl _
  ground := .inr rfl
  language := rfl
  settled := rfl

theorem withStack (h : S.SameDraft F l G d d') {s s' : List Element}
    (hs : S.SameStack F G s s') :
    S.SameDraft F l G { d with stack := s } { d' with stack := s' } :=
  { h with elements := hs.above, ground := hs.ground }

theorem withRoot (h : S.SameDraft F l G d d') {v v' : Value} (hv : S.SameValue v v')
    (hg : G.stack = []) :
    S.SameDraft F l G { d with root := some v } { d' with root := some v' } :=
  { h with root := .inl ⟨.some hv, hg⟩ }

theorem settleLanguage (h : S.SameDraft F l G d d') :
    S.SameDraft F l G (d.settleLanguage l) (d'.settleLanguage l) :=
  { h with language := h.language, settled := rfl }

end SameDraft

end Twins

end Bxml
