import Bxml.Proofs.Load.Below

/-!
# Documents with inline includes

A document with an inline include succeeds if and only if it does so with the root of the included
document in the place of the include, and then both leave the same objects and the same ids:
`loadOuter_splice`.

* `Xml.Splice.Fits` is the condition at the place where the document comes to the include: the
  element is an include of the other document there (`Site.Includes`), and that one means the same
  there (`Site.Suits`).
* `Draft.AdoptsValues` says that objects which are the values of properties have a parent; it holds
  throughout a load (`Draft.AdoptsValues.takeEvents`), and is what handing a root to a property
  needs.
* `alike_spliced` follows the including document up to the include, compares the two there and goes
  on; `alike_relocated` leaves aside that markup stands elsewhere in the other document.

`loadOuter_splice_list` is an include directly in a reference to a list, of a document whose root
has an id, an attached attribute and an object among its values.  `inline_include_apart` has the
cases in which the two are apart: the include is the root of its document, what is attached to the
root looks at the object that takes it, or at something that is bound to that object, and the
including document has no location.
-/

namespace Bxml

open Twins

variable {l : Loader} {c : DocumentContext} {d d' : Draft} {w v : World}

/-! ## Documents that mean the same where they are included -/

/-- A source that does not start with the sentinel is meant as it is written. -/
theorem includeSource_of_written {src : String}
    (h : src.toList.head? ≠ some AttributeForm.referenceSentinel) :
    includeSource c src = pure src := by
  unfold includeSource
  split
  · next s _ _ hs =>
    rw [hs, List.head?_cons] at h
    rw [if_neg fun heq => h (congrArg some heq)]
  · rfl

/-- If all sources are written down and none is relative, they are the same in all documents. -/
theorem Site.fixesSources_of_written {X : Site} {items : List Xml.Located}
    (hp : ∀ x ∈ items, ∀ tag, x.event = .start tag → tag.IsPortable X.loader)
    (hs : ∀ x ∈ items, ∀ tag, x.event = .start tag → ∀ a ∈ tag.attributes, a.name = srcAttribute →
      X.loader.IsFixed a.value ∧ a.value.toList.head? ≠ some AttributeForm.referenceSentinel) :
    X.FixesSources items := by
  intro before x after tag d v src hi hx _ asks
  have mem : x ∈ items := hi ▸ by simp
  obtain ⟨found, y, s, u, v, z, -, -, hy, control, source⟩ := asks
  obtain ⟨-, -, -, written⟩ := Attributed.of_foldlM_add hy (hp x mem tag hx).attributes
  obtain ⟨a, ha, name, rfl⟩ := (written _ _ control).resolve_left (by simp [Element.new])
  obtain ⟨fixed, plain⟩ := hs x mem tag hx a ha name
  rw [includeSource_of_written plain] at source
  cases source
  exact fixed

/-- If the host runs nothing on roots, nothing is to be run on the root of a document. -/
theorem Site.initializes_of_hook {X : Site}
    (h : ∀ hook held o t u, X.loader.host.hook hook held o t u = pure ())
    (items : List Xml.Located) : X.Initializes items := by
  intro d v root _ _
  refine ⟨v, ?_, .refl v⟩
  unfold completeRoot
  cases root.object? with
  | none => rfl
  | some o =>
    rw [Op.bind_runIn_of_ok (Op.read_runIn _ _)]
    cases (v.object o).dictionary?.bind (·.hook) with
    | none => rfl
    | some hook =>
      dsimp only
      rw [h]
      rfl

/-! ## Values of properties -/

/-- Objects that have a parent keep it. -/
theorem parented_subset_of_takeEvents (hl : l.IsDeterministic) {n : Nat} {items : List Xml.Located}
    (h : (takeEvents l c (l.deeper n) d items).runIn w = (.ok d', v)) : d.parented ⊆ d'.parented := by
  have same : itself.SameOp Faults.all.toFailing (itself.SameDraft .all l (.bare d.parented))
      (takeEvents l c (l.deeper n) d items) (takeEvents l c (l.deeper n) d items) :=
    hl.takeEvents (sameDraft_itself .all l d (List.Subset.refl _)) (sameContext_itself c d.parented)
      (hl.deeper n) rfl (List.forall₂_same.2 fun x _ => ⟨rfl, fun _ => trivial⟩)
  have run := same w w (sameWorld_itself.2 (.refl w))
  rw [h] at run
  cases run with
  | ok ha _ => exact ha.kept

namespace Draft.AdoptsValues

theorem start (parented : List ObjectId) : (Draft.start parented).AdoptsValues :=
  fun _ hx => absurd hx List.not_mem_nil

theorem mono (hd : d.AdoptsValues) (hs : d'.stack ⊆ d.stack) (hp : d.parented ⊆ d'.parented) :
    d'.AdoptsValues :=
  fun x hx hk o ho => hp (hd x (hs hx) hk o ho)

/-- What is put into the innermost element must have a parent if it is an object. -/
theorem setValue (hd : d.AdoptsValues) {a : Value} (ha : ∀ o, a = .object o → o ∈ d.parented) :
    (d.setValue a).AdoptsValues := by
  unfold Draft.setValue
  split
  · exact hd
  · next e outer hs =>
    intro x hx hk o ho
    obtain rfl | hx := List.mem_cons.1 hx
    · exact ha o ho
    · exact hd x (hs ▸ List.mem_cons_of_mem _ hx) hk o ho

/-- A value is put into a property when it gets a parent. -/
theorem compose (hd : d.AdoptsValues) {e : Element}
    (h : (compose l c d e).runIn w = (.ok d', v)) : d'.AdoptsValues := by
  obtain ⟨-, rfl, -⟩ | ⟨r, parented, -, ha, ht⟩ := compose_eq_ok h
  · exact hd
  · obtain ⟨-, -, rfl⟩ := adopt_eq_ok.1 ha
    have adopting : (d.adopting e.value).AdoptsValues :=
      hd.mono (List.Subset.refl _) (List.subset_append_right _ _)
    rw [Receiver.take_eq_ok ht]
    cases r with
    | object o => exact adopting
    | element =>
      refine adopting.setValue fun o ho => List.mem_append_left _ ?_
      rw [ho]
      exact List.mem_singleton_self o

theorem step (hd : d.AdoptsValues) (hl : l.IsDeterministic) {n : Nat} {x : Xml.Located}
    (h : (d.step l c (l.deeper n) x).runIn w = (.ok d', v)) : d'.AdoptsValues := by
  have grown : d.parented ⊆ d'.parented := by
    have taken : (Bxml.takeEvents l c (l.deeper n) d [x]).runIn w = (.ok d', v) :=
      takeEvents_cons_eq_ok.2 ⟨d', v, h, rfl⟩
    exact parented_subset_of_takeEvents hl taken
  cases he : x.event with
  | start tag =>
    obtain ⟨e, hs, -⟩ := Draft.stack_of_start he h
    intro y hy hk o ho
    rw [hs] at hy
    obtain rfl | hy := List.mem_cons.1 hy
    · rw [Draft.null_of_start he h hs hk] at ho
      cases ho
    · exact grown (hd y hy hk o ho)
  | close =>
    rw [Draft.step_of_close he] at h
    obtain ⟨e, outer, d₁, u, hs, hc, -, hd'⟩ := Draft.closeElement_eq_ok h
    have inner : ({ d with stack := outer } : Draft).AdoptsValues :=
      hd.mono (fun y hy => hs ▸ List.mem_cons_of_mem _ hy) (List.Subset.refl _)
    have closed : d₁.AdoptsValues := by
      cases hk : e.kind.isComposed with
      | false =>
        rw [closeAs_of_not_isComposed hk hc]
        exact inner
      | true =>
        rw [closeAs_of_isComposed hk] at hc
        simp only [Op.bind_runIn_eq_ok] at hc
        obtain ⟨_, _, -, d₂, _, hc, _, _, -, hr⟩ := hc
        cases hr
        exact inner.compose hc
    rw [hd']
    split
    · exact closed
    · exact closed
  | instruction target data =>
    exact hd.mono (Draft.stack_of_instruction he h ▸ List.Subset.refl _) grown
  | characters text =>
    rw [Draft.step_of_characters he] at h
    obtain rfl | ⟨e, outer, a, hs, ha, rfl⟩ := Draft.addText_eq_ok h
    · exact hd
    · intro y hy hk o ho
      obtain rfl | hy := List.mem_cons.1 hy
      · obtain rfl | ⟨-, rfl⟩ := ha
        · exact hd e (hs ▸ List.mem_cons_self) hk o ho
        · cases ho
      · exact hd y (hs ▸ List.mem_cons_of_mem _ hy) hk o ho

theorem takeEvents (hd : d.AdoptsValues) (hl : l.IsDeterministic) {n : Nat}
    {items : List Xml.Located} (h : (takeEvents l c (l.deeper n) d items).runIn w = (.ok d', v)) :
    d'.AdoptsValues :=
  takeEvents_preserves (fun _ _ _ _ _ _ hd h => hd.step hl h) hd h

end Draft.AdoptsValues

/-! ## Loads -/

theorem loadNested_eq (l : Loader) (n : Nat) : loadNested l n = loadWith l (l.deeper n) := by
  cases n <;> rfl

/-- Where a document comes to an include, if it comes there: the include asks for another document
there, which means the same in both. -/
def Xml.Splice.Fits {p p' source : String} {S : Xml.Single (Xml.events source)}
    (s : Xml.Splice (Xml.events p) (Xml.events p') S.root) (l : Loader) (n : Nat)
    (c : DocumentContext) (parented : List ObjectId) (w : World) (u : Url) : Prop :=
  ∀ d v, (takeEvents l c (l.deeper n) (.start parented) s.before).runIn (c.announce w) = (.ok d, v) →
    Site.Includes ⟨l, c, d, v, u, n - 1⟩ s.inclusion source ∧ Site.Suits ⟨l, c, d, v, u, n - 1⟩ S

section

variable {p p' source : String} {S : Xml.Single (Xml.events source)}
  {s : Xml.Splice (Xml.events p) (Xml.events p') S.root} {n : Nat} {parented : List ObjectId}
  {u : Url}

/-- The including document does the same with the root in the place of the include. -/
theorem alike_spliced (hl : l.IsDeterministic) (h : s.Fits l n c parented w u) :
    Alike LoadError.IsTooDeep (itself.SameDraft .all l (.bare []))
      ((takeEvents l c (l.deeper n) (.start parented) (Xml.events p).items).runIn (c.announce w))
      ((takeEvents l c (l.deeper n) (.start parented)
        (s.before ++ (S.root.items ++ s.after))).runIn (c.announce w)) := by
  rw [s.items_eq, takeEvents_append, takeEvents_append]
  cases hb : (takeEvents l c (l.deeper n) (.start parented) s.before).runIn (c.announce w) with
  | mk r v =>
    cases r with
    | error e =>
      rw [Op.bind_runIn_of_error hb, Op.bind_runIn_of_error hb]
      exact .error
    | ok d =>
      rw [Op.bind_runIn_of_ok hb, Op.bind_runIn_of_ok hb, takeEvents_append, takeEvents_append]
      obtain ⟨hi, hs⟩ := h d v hb
      have items : Alike LoadError.IsTooDeep (itself.SameDraft .all l (.bare []))
          ((takeEvents l c (l.deeper n) d s.inclusion.items).runIn v)
          ((takeEvents l c (l.deeper n) d S.root.items).runIn v) := by
        cases n with
        | zero =>
          obtain ⟨src, limit, at_, z, failed⟩ := Site.takeEvents_inclusion_of_tooDeep hi
          have failed : (takeEvents l c (l.deeper 0) d s.inclusion.items).runIn v =
            (.error (.structural (.tooDeep src limit) at_), z) := failed
          rw [failed]
          exact .lost ⟨src, limit, at_, rfl⟩
        | succ n =>
          have adopts := (Draft.AdoptsValues.start parented).takeEvents hl hb
          exact Site.alike_items hl hi adopts hs
      refine items.bind fun {a a' z z'} _ ha hz => Alike.weaken ?_
      have after : itself.SameOp Faults.all.toFailing (itself.SameDraft .all l (.bare []))
          (takeEvents l c (l.deeper n) a s.after) (takeEvents l c (l.deeper n) a' s.after) :=
        hl.takeEvents ha (sameContext_itself c []) (hl.deeper n) rfl
          (List.forall₂_same.2 fun x _ => ⟨rfl, fun _ => trivial⟩)
      exact after.alike hz

/-- Where markup stands does not count. -/
theorem alike_relocated (hl : l.IsDeterministic)
    (s : Xml.Splice (Xml.events p) (Xml.events p') S.root) (w : World) :
    Alike (fun _ => False) (itself.SameDraft .all l (.bare []))
      ((takeEvents l c (l.deeper n) (.start parented)
        (s.before ++ (S.root.items ++ s.after))).runIn w)
      ((takeEvents l c (l.deeper n) (.start parented) (Xml.events p').items).runIn w) := by
  have items : List.Forall₂ (SameItem .all) (s.before ++ (S.root.items ++ s.after))
      (Xml.events p').items := by
    have same := List.forall₂_eq_eq_eq.symm ▸ s.events_eq.symm
    rw [List.forall₂_map_left_iff, List.forall₂_map_right_iff] at same
    exact same.imp fun _ _ hx => ⟨hx, fun _ => trivial⟩
  have taken : itself.SameOp Faults.all.toFailing (itself.SameDraft .all l (.bare []))
      (takeEvents l c (l.deeper n) (.start parented) (s.before ++ (S.root.items ++ s.after)))
      (takeEvents l c (l.deeper n) (.start parented) (Xml.events p').items) :=
    hl.takeEvents (sameDraft_itself .all l _ (List.nil_subset _)) (sameContext_itself c [])
      (hl.deeper n) rfl items
  exact taken.alike (.refl w)

/-- A load with an inline include comes to the same as one with the root of the included document in
the place of the include, unless documents are included too deep. -/
theorem alike_loadNested (hl : l.IsDeterministic) (h : s.Fits l n c parented w u) :
    Alike LoadError.IsTooDeep (fun x x' => x.1 = x'.1) ((loadNested l n c parented p).runIn w)
      ((loadNested l n c parented p').runIn w) := by
  rw [loadNested_eq, loadWith_runIn, loadWith_runIn]
  refine ((alike_spliced hl h).trans (alike_relocated hl s _)).bind fun {a a' v v'} _ ha hv => ?_
  obtain ⟨b, hb, ha⟩ := ha
  have fault : SameFault .all (Xml.events p) (Xml.events p') := by
    have faults := s.fault
    unfold SameFault
    cases hf : (Xml.events p).fault <;> cases hf' : (Xml.events p').fault
    · exact .none
    · rw [hf, hf'] at faults
      cases faults
    · rw [hf, hf'] at faults
      cases faults
    · exact .some trivial
  have completed := hl.complete (hb.chain ha) (sameContext_itself c []) fault
  exact (Alike.weaken (completed.alike hv)).mono fun _ _ hx => hx.eq

/-- A document that includes another one inline, and comes to no include that is too deep, succeeds if
and only if it does so with the root of the other one in the place of the include. Then both have the
same root and leave the same objects and the same ids. -/
theorem loadOuter_splice (hl : l.IsDeterministic) (h : s.Fits l l.maxDepth c [] w u)
    (hd : ∀ e, ((l.loadOuter c p).runIn w).1 = .error e → ¬ e.IsTooDeep) :
    let r := (l.loadOuter c p).runIn w
    let r' := (l.loadOuter c p').runIn w
    r.1.isOk = r'.1.isOk ∧ ∀ o o', r.1 = .ok o → r'.1 = .ok o' →
      o = o' ∧ r.2.objects = r'.2.objects ∧ r.2.tables = r'.2.tables := by
  intro r r'
  have outer : Alike LoadError.IsTooDeep Eq r r' :=
    Alike.bind (alike_loadNested hl h) fun _ hx hv => .ok hx hv
  obtain ⟨ok, same⟩ := outer.isOk_iff hd
  refine ⟨ok, fun o o' ho ho' => ?_⟩
  obtain ⟨rfl, agrees⟩ := same o o' ho ho'
  exact ⟨rfl, agrees.objects, agrees.tables⟩

end

/-! ## A document with an include in a property -/

/-- The loader of documents that are only looked at, with some files. -/
def Loader.serving (files : List (Url × String)) : Loader :=
  let store := files.foldl (fun s f => s.insert f.1 (Url.utf8 f.2.toList)) MemoryStore.empty
  { Loader.plain with provider := store.provider }

theorem Loader.serving_isDeterministic (files : List (Url × String)) :
    (Loader.serving files).IsDeterministic :=
  Loader.isStateless_of_plain rfl rfl itself

/-- What a document knows of its surroundings that is in no other one. -/
def DocumentContext.outer (location : Option Url) : DocumentContext :=
  ⟨location, ⟨0⟩, none, 0, .nothing⟩

/-- A world in which a document has no ids yet. -/
def World.blank : World := (World.empty.allocTable .empty).2

/-- The URL of another file. -/
def Url.otherFile : Url := { Url.fileRoot with path := ['/', 'd'] }

/-- A world in which a document has an id, which stands for an empty list. -/
def World.listed : World :=
  ((World.empty.alloc ⟨.list [], []⟩).2.allocTable (Entries.empty.insert "p" (.object ⟨0⟩))).2

/-- A document whose root has an id and an attached attribute, which refers to an id of the including
one and includes a third one. -/
def includedText : String := "<B bxml:id='b' L.column='1' k='$a'><y><bxml:include src='/d'/></y></B>"

/-- A document that includes that one inline in a list. -/
def includingText : String :=
  "<A><z><E bxml:id='a'/></z><x><bxml:reference id='p'><bxml:include src='/' inline='true'/>" ++
    "</bxml:reference></x></A>"

/-- The document with the other one in the place of the include. -/
def splicedText : String :=
  "<A><z><E bxml:id='a'/></z><x><bxml:reference id='p'>" ++
    "<B bxml:id='b' L.column='1' k='$a'><y><bxml:include src='/d'/></y></B>" ++
    "</bxml:reference></x></A>"

/-- The loader of the documents. -/
def partsLoader : Loader := .serving [(.fileRoot, includedText), (.otherFile, "<D/>")]

theorem partsLoader_isDeterministic : partsLoader.IsDeterministic :=
  Loader.serving_isDeterministic _

/-- Markup in the first line. -/
def Xml.Event.inColumn (e : Xml.Event) (column : Nat) : Xml.Located :=
  ⟨e, ⟨1, column⟩, ⟨1, column⟩⟩

/-- The root of the included document. -/
def includedRoot : Xml.Markup where
  tag := ⟨none, none, "B", [⟨some Xml.controlPrefix, idAttribute, "b"⟩, ⟨none, "L.column", "1"⟩,
    ⟨none, "k", "$a"⟩]⟩
  opening := Xml.Event.inColumn (.start ⟨none, none, "B",
    [⟨some Xml.controlPrefix, idAttribute, "b"⟩, ⟨none, "L.column", "1"⟩, ⟨none, "k", "$a"⟩]⟩) 1
  content := [Xml.Event.inColumn (.start ⟨none, none, "y", []⟩) 36,
    Xml.Event.inColumn (.start ⟨some Xml.controlNamespace, some Xml.controlPrefix, includeTag,
      [⟨none, srcAttribute, "/d"⟩]⟩) 39,
    Xml.Event.inColumn .close 63, Xml.Event.inColumn .close 63]
  closing := Xml.Event.inColumn .close 67
  opening_event := rfl
  closing_event := rfl
  balanced := rfl

/-- The included document consists of that root. -/
def included : Xml.Single (Xml.events includedText) where
  lead := []
  root := includedRoot
  trail := []
  items_eq := by decide +kernel
  lead_blank := nofun
  trail_blank := nofun
  is_instance := ⟨nofun, by decide +kernel, by decide +kernel⟩
  uninstructed := by
    intro x hx target data
    simp only [includedRoot, List.mem_cons, List.not_mem_nil, or_false] at hx
    rcases hx with rfl | rfl | rfl | rfl <;> nofun
  fault := by decide +kernel

/-- The root is in the place of the include. -/
def spliced : Xml.Splice (Xml.events includingText) (Xml.events splicedText) included.root where
  before := [Xml.Event.inColumn (.start ⟨none, none, "A", []⟩) 1,
    Xml.Event.inColumn (.start ⟨none, none, "z", []⟩) 4,
    Xml.Event.inColumn (.start ⟨none, none, "E",
      [⟨some Xml.controlPrefix, idAttribute, "a"⟩]⟩) 7,
    Xml.Event.inColumn .close 23, Xml.Event.inColumn .close 23,
    Xml.Event.inColumn (.start ⟨none, none, "x", []⟩) 27,
    Xml.Event.inColumn (.start ⟨some Xml.controlNamespace, some Xml.controlPrefix, referenceTag,
      [⟨none, idAttribute, "p"⟩]⟩) 30]
  inclusion := {
    tag := ⟨some Xml.controlNamespace, some Xml.controlPrefix, includeTag,
      [⟨none, srcAttribute, "/"⟩, ⟨none, inlineAttribute, "true"⟩]⟩
    opening := Xml.Event.inColumn (.start ⟨some Xml.controlNamespace, some Xml.controlPrefix,
      includeTag, [⟨none, srcAttribute, "/"⟩, ⟨none, inlineAttribute, "true"⟩]⟩) 53
    content := []
    closing := Xml.Event.inColumn .close 90
    opening_event := rfl
    closing_event := rfl
    balanced := rfl }
  after := [Xml.Event.inColumn .close 90, Xml.Event.inColumn .close 107,
    Xml.Event.inColumn .close 111]
  items_eq := by decide +kernel
  events_eq := by decide +kernel
  fault := by decide +kernel

/-- Nothing in the included document is a binding or a location, and its source is written down and
not relative. -/
theorem portable_included {x : Xml.Located} {tag : Xml.StartTag} (hx : x ∈ includedRoot.items)
    (h : x.event = .start tag) :
    tag.IsPortable partsLoader ∧ ∀ a ∈ tag.attributes, a.name = srcAttribute →
      partsLoader.IsFixed a.value ∧
        a.value.toList.head? ≠ some AttributeForm.referenceSentinel := by
  have fixed : partsLoader.IsFixed "/d" := Loader.isFixed_of_slash _ rfl
  have portable : ∀ a ∈ tag.attributes, a.IsPortable ∧ (a.name = srcAttribute → a.value = "/d") := by
    simp only [Xml.Markup.items, includedRoot, List.cons_append, List.nil_append, List.mem_cons,
      List.not_mem_nil, or_false] at hx
    rcases hx with rfl | rfl | rfl | rfl | rfl | rfl <;> cases h <;>
      simp only [List.mem_cons, List.not_mem_nil, or_false, false_implies, implies_true,
        forall_eq_or_imp, forall_eq]
    · exact ⟨⟨.of_literal "b" rfl, by decide⟩, ⟨.of_literal "1" rfl, by decide⟩,
        .of_reference "a" rfl, by decide⟩
    · exact ⟨.of_literal "/d" rfl, trivial⟩
  refine ⟨⟨fun a ha => (portable a ha).1, fun _ _ a ha hn => ?_⟩, fun a ha hn => ?_⟩
  · rw [(portable a ha).2 hn]
    exact fixed
  · rw [(portable a ha).2 hn]
    exact ⟨fixed, by decide⟩

/-- Where the including document asks for the other one. -/
def listSite (d : Draft) (v : World) : Site :=
  ⟨partsLoader, .outer (some .fileRoot), d, v, .fileRoot, partsLoader.maxDepth - 1⟩

/-- The including document up to the include. -/
def beforeInclusion : Except LoadError Draft × World :=
  (takeEvents partsLoader (.outer (some .fileRoot)) (partsLoader.deeper partsLoader.maxDepth)
    (.start []) spliced.before).runIn ((DocumentContext.outer (some .fileRoot)).announce .listed)

/-- What the end of the root starts with in the included document. -/
def Site.startEnd (X : Site) (d : Draft) (e : Element) : Op LoadError Unit :=
  applyAttributes X.loader ((d.withStack []).held X.inner e.heldValues) e

/-- Where the root is about to be handed over: the including document, the element of the root and
the world. -/
def handing? : Option (Draft × Element × World) :=
  match beforeInclusion with
  | (.ok d, v) =>
    match (listSite d v).taken (included.lead ++ included.root.opening :: included.root.content) with
    | (.ok a, u) =>
      match a.stack with
      | [e] =>
        match ((listSite d v).startEnd a e).runIn u with
        | (.ok _, z) => some (d, e, z)
        | _ => none
      | _ => none
    | _ => none
  | _ => none

/-- The root is handed to a list; it has an attached attribute, and nobody is told of its changes. -/
theorem handing?_facts : handing?.any (fun r => decide (
    r.1.stack.head?.map (fun x => (x.kind, x.value)) = some (.reference, .object ⟨0⟩) ∧
      r.2.1.value = .object ⟨3⟩ ∧ r.2.1.attached = [⟨"L", "L", "column", "1"⟩] ∧
      0 < r.2.2.objects.size ∧ (r.2.2.object ⟨0⟩).defaultProperty = none ∧
      (r.2.2.object ⟨3⟩).subscribers = [])) = true := by
  decide +kernel

theorem separated_spliced {d a : Draft} {v u z : World} {e : Element} {o : ObjectId}
    (hd : beforeInclusion = (.ok d, v))
    (ha : (listSite d v).taken (included.lead ++ included.root.opening :: included.root.content) =
      (.ok a, u))
    (he : a.stack = [e]) (hz : ((listSite d v).startEnd a e).runIn u = (.ok (), z))
    (ho : receiver? d.stack e.location = .ok (some (.object o))) :
    ∃ B, Separated partsLoader (.outer (some .fileRoot)) ((listSite d v).resumed a.parented) e o z
      B := by
  have handing : handing? = some (d, e, z) := by
    unfold handing?
    rw [hd]
    dsimp only
    rw [ha]
    dsimp only
    rw [he]
    dsimp only
    rw [hz]
  have facts := handing?_facts
  rw [handing, Option.any_some, decide_eq_true_iff] at facts
  obtain ⟨parent, value, attached, size, list, unbound⟩ := facts
  obtain ⟨x, hx, hp⟩ := Option.map_eq_some_iff.1 parent
  obtain ⟨outer, hs⟩ : ∃ outer, d.stack = x :: outer := by
    cases hs : d.stack with
    | nil =>
      rw [hs] at hx
      cases hx
    | cons y outer =>
      rw [hs] at hx
      cases hx
      exact ⟨outer, rfl⟩
  obtain ⟨kind, parent⟩ := Prod.mk.inj hp
  obtain rfl : o = ⟨0⟩ := by
    rw [hs] at ho
    unfold receiver? at ho
    dsimp only at ho
    rw [kind, parent] at ho
    cases ho
    rfl
  refine ⟨_, Separated.of_unbound (x := ⟨3⟩) value (by decide) size ?current ?taker ?root ?plain⟩
  case current =>
    intro property p hd
    rw [list] at hd
    cases hd
  case taker =>
    intro property hd
    rw [list] at hd
    cases hd
  case root =>
    intro name b hb
    unfold Object.subscribersOf at hb
    rw [unbound] at hb
    cases hb
  case plain =>
    intro b hb
    rw [attached, List.mem_singleton] at hb
    rw [hb]
    exact ⟨rfl, .literal "1", rfl, .inl ⟨"1", rfl⟩⟩

/-- The include is in a reference to a list, and the included document means the same there. -/
theorem fits_spliced :
    spliced.Fits partsLoader partsLoader.maxDepth (.outer (some .fileRoot)) [] .listed .fileRoot := by
  intro d v h
  have reached : (beforeInclusion.1.toOption.map fun d =>
      (d.stack.isEmpty, d.languageIn partsLoader)) = some (false, defaultLanguage) := by
    decide +kernel
  rw [show beforeInclusion = (.ok d, v) from h] at reached
  obtain ⟨inside, language⟩ := Prod.mk.inj (Option.some.inj reached)
  refine ⟨⟨?inside, ?found, ?text⟩, ⟨rfl, language, ?portable, ?sources, ?initializes, ?separated⟩⟩
  case inside =>
    intro hs
    rw [hs] at inside
    cases inside
  case found => exact ⟨"/", "/", ⟨rfl, rfl, .inl rfl, rfl⟩, rfl, rfl⟩
  case text =>
    have read : (partsLoader.readText .fileRoot partsLoader.charset).toOption =
        some includedText := by
      decide +kernel
    cases hr : partsLoader.readText .fileRoot partsLoader.charset with
    | error e =>
      rw [hr] at read
      cases read
    | ok s =>
      rw [hr] at read
      exact congrArg Except.ok (Option.some.inj read)
  case portable =>
    exact ⟨(portable_included List.mem_cons_self rfl).1, fun y hy tag ht =>
      (portable_included (List.mem_cons_of_mem _ (List.mem_append_left _ hy)) ht).1⟩
  case sources =>
    have items {y : Xml.Located} (hy : y ∈ (Xml.events includedText).items) :
        y ∈ includedRoot.items := by
      rw [included.items_eq] at hy
      simpa [included] using hy
    exact Site.fixesSources_of_written (fun y hy tag ht => (portable_included (items hy) ht).1)
      fun y hy tag ht => (portable_included (items hy) ht).2
  case initializes => exact Site.initializes_of_hook (fun _ _ _ _ _ => rfl) _
  case separated =>
    intro a u e z o ha he hz ho
    exact .inr (separated_spliced h ha he hz ho)

theorem loadOuter_splice_list :
    partsLoader.IsDeterministic ∧
      spliced.Fits partsLoader partsLoader.maxDepth (.outer (some .fileRoot)) [] .listed .fileRoot ∧
      let r := (partsLoader.loadOuter (.outer (some .fileRoot)) includingText).runIn .listed
      let r' := (partsLoader.loadOuter (.outer (some .fileRoot)) splicedText).runIn .listed
      r.1.isOk = true ∧ (r.2.table ⟨0⟩).keys = ["p", "a", "b"] ∧ r.1.isOk = r'.1.isOk ∧
        ∀ o o', r.1 = .ok o → r'.1 = .ok o' →
          o = o' ∧ r.2.objects = r'.2.objects ∧ r.2.tables = r'.2.tables := by
  have loaded : ((partsLoader.loadOuter (.outer (some .fileRoot)) includingText).runIn
      .listed).1.isOk = true := by
    decide +kernel
  have keys : (((partsLoader.loadOuter (.outer (some .fileRoot)) includingText).runIn
      .listed).2.table ⟨0⟩).keys = ["p", "a", "b"] := by
    decide +kernel
  have shallow {x : Except LoadError Outcome} (hx : x.isOk = true) :
      ∀ e, x = .error e → ¬ e.IsTooDeep := by
    rintro e rfl
    cases hx
  have same := loadOuter_splice partsLoader_isDeterministic fits_spliced (shallow loaded)
  exact ⟨partsLoader_isDeterministic, fits_spliced, loaded, keys, same⟩

/-! ## Where an include is apart from its document -/

/-- A world in which a document has ids for an object whose default property takes everything and for
a dictionary to which that property is bound. -/
def World.forwarding : World :=
  let taker : Object := ⟨.bean ⟨"P", some "content", none, .ofList [("content", .writable .any .null)]⟩,
    [("content", .binding ⟨⟨0⟩, "content", ⟨1⟩, "x", none⟩)]⟩
  let told : Object := ⟨.dictionary ⟨Object.dictionaryType, .ofList [("x", .int 0)], none⟩, []⟩
  (((World.empty.alloc taker).2.alloc told).2.allocTable
    (.ofList [("p", .object ⟨0⟩), ("q", .object ⟨1⟩)])).2

/-- What an include does and what the root of its document does in its place differ if the include is
the root, if what is attached to the root of its document looks at the object that takes it, or at
something that is bound to that object, and if the including document has no location. -/
theorem inline_include_apart :
    let here := DocumentContext.outer (some .fileRoot)
    let nowhere := DocumentContext.outer none
    let single := Loader.serving [(.fileRoot, "<A/>")]
    let counting := Loader.serving [(.fileRoot, "<B L.column='$p.length'/>")]
    let watching := Loader.serving [(.fileRoot, "<B L.column='$q.x'/>")]
    let nested := Loader.serving [(.fileRoot, "<A><x><bxml:include src='file:///d'/></x></A>"),
      (.otherFile, "<D/>")]
    (single.IsDeterministic ∧
      ((single.loadOuter here "<bxml:include src='/' inline='true'/>").runIn .blank).1.isOk = false ∧
      ((single.loadOuter here "<A/>").runIn .blank).1.isOk = true) ∧
    (counting.IsDeterministic ∧
      let r := (counting.loadOuter here ("<A><x><bxml:reference id='p'>" ++
        "<bxml:include src='/' inline='true'/></bxml:reference></x></A>")).runIn .listed
      let r' := (counting.loadOuter here ("<A><x><bxml:reference id='p'>" ++
        "<B L.column='$p.length'/></bxml:reference></x></A>")).runIn .listed
      r.1.isOk = true ∧ r'.1.isOk = true ∧
      (r.2.object ⟨2⟩).dictionary?.map (·.entries.get? "L.column") = some (some (.int 0)) ∧
      (r'.2.object ⟨2⟩).dictionary?.map (·.entries.get? "L.column") = some (some (.int 1))) ∧
    (watching.IsDeterministic ∧
      let r := (watching.loadOuter here ("<A><x><bxml:reference id='p'>" ++
        "<bxml:include src='/' inline='true'/></bxml:reference></x></A>")).runIn .forwarding
      let r' := (watching.loadOuter here ("<A><x><bxml:reference id='p'>" ++
        "<B L.column='$q.x'/></bxml:reference></x></A>")).runIn .forwarding
      r.1.isOk = true ∧ r'.1.isOk = true ∧
      (r.2.object ⟨3⟩).dictionary?.map (·.entries.get? "L.column") = some (some (.int 0)) ∧
      (r'.2.object ⟨3⟩).dictionary?.map (·.entries.get? "L.column") =
        some (some (.object ⟨3⟩))) ∧
    (nested.IsDeterministic ∧
      ((nested.loadOuter nowhere
        "<A><x><bxml:include src='/' inline='true'/></x></A>").runIn .blank).1.isOk = true ∧
      ((nested.loadOuter nowhere ("<A><x><A><x><bxml:include src='file:///d'/></x></A>" ++
        "</x></A>")).runIn .blank).1.isOk = false) := by
  intro here nowhere single counting watching nested
  refine ⟨⟨Loader.serving_isDeterministic _, ?_, ?_⟩,
    ⟨Loader.serving_isDeterministic _, ?_, ?_, ?_, ?_⟩,
    ⟨Loader.serving_isDeterministic _, ?_, ?_, ?_, ?_⟩,
    ⟨Loader.serving_isDeterministic _, ?_, ?_⟩⟩ <;> decide +kernel

end Bxml
