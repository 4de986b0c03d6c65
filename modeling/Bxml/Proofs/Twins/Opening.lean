import Bxml.Proofs.Twins.Drafts

/-!
# Starts of elements in twin documents

The operations of a load up to the start of an element are listed here in the order in which they are
defined: each does the same for documents that are the same.

`SameMeaning` and `SameStart` are the conditions on markup: attributes that name locations mean the
same only in documents at the same place.  `AsksFor` finds the source that the start of an element
asks for, which must be the same in both.  `SameParts.push` is the step that may put the first
element above a ground.
-/

namespace Bxml.Twins

variable (S : Twins) (F : Faults)

/-- Whether two attributes stand for the same. -/
inductive SameAttribute : AttributeValue → AttributeValue → Prop
  | resolved {v v' : Value} : S.SameValue v v' → SameAttribute (.resolved v) (.resolved v')
  | binding (expression : String) : SameAttribute (.binding expression) (.binding expression)

/-- Whether two documents are to be included in the same way. -/
structure SameInclusion (x x' : NestedLoad × Inclusion) : Prop where
  nested : S.SameNested F x.1 x'.1
  url : x.2.url = x'.2.url
  charset : x.2.charset = x'.2.charset
  context : S.SameContext (.bare []) x.2.context x'.2.context

/-- What an included document gives: its root, and what has a parent. -/
structure SameRoot (parented' : List ObjectId) (x x' : Value × List ObjectId) : Prop where
  root : S.SameValue x.1 x'.1
  parented : S.SameMembers x.2 x'.2
  kept : parented' ⊆ x'.2

/-- Whether two elements stand for the same. -/
structure SameClassified (x x' : Classified) : Prop where
  kind : x.kind = x'.kind
  name : x.name = x'.name
  value : S.SameValue x.value x'.value

/-- Whether two elements under way are the same. -/
structure SameAttributed (x x' : Attributed) : Prop where
  element : S.SameElement F x.element x'.element
  bound : x.bound = x'.bound

/-- Whether two elements take their values from the same. -/
inductive SameOrigin : Origin NestedLoad → Origin NestedLoad → Prop
  | inclusion {n n' : NestedLoad} {i i' : Inclusion} : S.SameInclusion F (n, i) (n', i') →
      SameOrigin (.inclusion n i) (.inclusion n' i')
  | known {v v' : Value} : S.SameValue v v' → SameOrigin (.known v) (.known v')

/-- Whether an attribute means the same in two documents: they are at the same place, or the
attribute does not count from there. -/
def SameMeaning (c c' : DocumentContext) (raw : String) : Prop :=
  c.location = c'.location ∨ ∀ relative, AttributeForm.read raw ≠ .ok (.location relative)

/-- Whether the start of an element asks for a source of a document to be included. -/
def AsksFor (l : Loader) (c : DocumentContext) (d : Draft) (tag : Xml.StartTag) (at_ : Location)
    (w : World) (src : String) : Prop :=
  ∃ found x s u v z, (classify l d.stack tag at_).runIn w = (.ok found, u) ∧
    found.kind = .inclusion ∧
    (tag.attributes.foldlM (Attributed.add c tag.namespaceUri)
      ⟨.new found.kind found.name found.value at_, []⟩).runIn u = (.ok x, v) ∧
    x.element.control.get? srcAttribute = some s ∧ (includeSource c s).runIn v = (.ok src, z)

/-- Whether the start of an element means the same in two documents: its attributes do, and so does
the source of the document that it includes. -/
structure SameStart (l : Loader) (c c' : DocumentContext) (d : Draft) (tag : Xml.StartTag)
    (at_ : Location) (w : World) : Prop where
  attributes : ∀ a ∈ tag.attributes, SameMeaning c c' a.value
  source : ∀ {src}, AsksFor l c d tag at_ w src → l.sourceUrl c src = l.sourceUrl c' src

variable {S F} {l : Loader} {G : Ground} {c c' : DocumentContext} {d d' : Draft}
  {e e' : Element} {at_ at' : Location} {h h' : Held}

theorem sourceUrl_congr (h : c.location = c'.location) (src : String) :
    l.sourceUrl c src = l.sourceUrl c' src := by
  unfold Loader.sourceUrl
  rw [h]

theorem SameStart.of_location (h : c.location = c'.location) {tag : Xml.StartTag} {w : World} :
    SameStart l c c' d tag at_ w :=
  ⟨fun _ _ => .inl h, fun _ => sourceUrl_congr h _⟩

/-! ## Faults -/

namespace SameOp

variable {α β : Type} {R : α → β → Prop}

theorem failAt (hl : F.Located at_ at') (f : StructureFault) :
    S.SameOp F.toFailing R (failAt at_ f) (failAt at' f) :=
  .throw (hl f)

theorem orFail (hl : F.Located at_ at') (f : StructureFault) {a : Option α} {b : Option β}
    (h : Option.Rel R a b) : S.SameOp F.toFailing R (orFail at_ f a) (orFail at' f b) := by
  cases h with
  | none => exact failAt hl f
  | some h => exact .pure h

theorem require (hl : F.Located at_ at') (f : StructureFault) {p q : Bool} (h : p = q) :
    S.SameOp F.toFailing Eq (require at_ f p) (require at' f q) :=
  .ite (by rw [h]) (.pure rfl) (failAt hl f)

theorem objectOr (hl : F.Located at_ at') (f : StructureFault) {v v' : Value}
    (h : S.SameValue v v') :
    S.SameOp F.toFailing S.SameObject (objectOr at_ f v) (objectOr at' f v') :=
  orFail hl f h.object?

theorem orFailSame (hl : F.Located at_ at') (f : StructureFault) (a : Option α) :
    S.SameOp F.toFailing Eq (Bxml.orFail at_ f a) (Bxml.orFail at' f a) :=
  orFail hl f (by cases a <;> constructor; rfl)

end SameOp

/-! ## Attributes -/

theorem SameScope.resolveForm (hc : S.SameScope G c c') (form : AttributeForm)
    (hf : c.location = c'.location ∨ ∀ relative, form ≠ .location relative) :
    S.SameOp F.toFailing S.SameAttribute (c.resolveForm form) (c'.resolveForm form) := by
  cases form with
  | literal s => exact .pure (.resolved (.string s))
  | binding expression => exact .pure (.binding expression)
  | location relative =>
    simp only [DocumentContext.resolveForm, hf.resolve_right fun h => h relative rfl]
    split
    · exact .throwSame _
    · split
      · exact .pure (.resolved (.url _))
      · exact .throwSame _
  | resource key =>
    refine .bind (R := Option.Rel S.SameValue) (.make fun {w w'} hw => ?_) fun {v v'} hv => ?_
    · obtain ⟨hb, hb'⟩ | ⟨b, b', hb, hb', same⟩ := hc.bundle.none_or_some
      · rw [hb, hb']
        exact ⟨.none, hw⟩
      · rw [hb, hb']
        exact hw.lookup same key
    · cases hv with
      | none => exact .bind (.log _ _ _ _) fun _ => .pure (.resolved (.string key))
      | some hv => exact .pure (.resolved hv)
  | null => exact .pure (.resolved .null)
  | reference path =>
    exact .bind (.mapSame (.check fun hw => hw.resolve hc.table _) _) fun hv =>
      .pure (.resolved hv)

theorem SameScope.resolveAttribute (hc : S.SameScope G c c') {raw : String}
    (hr : SameMeaning c c' raw) (hl : F.Located at_ at') :
    S.SameOp F.toFailing S.SameAttribute (c.resolveAttribute raw at_)
      (c'.resolveAttribute raw at') := by
  unfold DocumentContext.resolveAttribute
  cases hf : AttributeForm.read raw with
  | error f =>
    exact .bind (R := fun _ _ => False) (fun _ _ hw => .error (hl f) hw) fun h => h.elim
  | ok form =>
    refine .bind (R := fun a b => a = form ∧ b = form) (.pure ⟨rfl, rfl⟩) fun {a b} hab => ?_
    rw [hab.1, hab.2]
    exact hc.resolveForm form (hr.imp_right fun h relative hx => h relative (hf.trans (hx ▸ rfl)))

/-! ## Inclusions -/

theorem SameScope.includeSource (hc : S.SameScope G c c') (src : String) :
    S.SameOp F.toFailing Eq (includeSource c src) (includeSource c' src) := by
  unfold Bxml.includeSource
  split
  · refine .ite Iff.rfl (.ite Iff.rfl (.pure rfl) ?_) (.pure rfl)
    exact .bind (.mapSame (.check fun hw => hw.resolve hc.table _) _) fun hv =>
      .read fun hw => hw.text hv
  · exact .pure rfl

theorem includeBundle_same (hb : Option.Rel S.SameBundle c.bundle c'.bundle)
    (hc : e.control = e'.control) (hl : F.Located e.location e'.location) :
    S.SameOp F.toFailing (Option.Rel S.SameBundle) (includeBundle l c e)
      (includeBundle l c' e') := by
  unfold includeBundle
  rw [hc]
  split
  · exact .pure hb
  · split
    · exact .failAt hl _
    · next b _ => exact .bind (.mapSame (.loadBundle b _ hb) _) fun hb => .pure (.some hb)

theorem includeCharset_same (hc : e.control = e'.control) :
    S.SameOp F.toFailing Eq (includeCharset l e) (includeCharset l e') := by
  unfold includeCharset
  rw [hc]
  split
  · exact .pure rfl
  · split
    · exact .pure rfl
    · exact .throwSame _

theorem isInline_same (hc : e.control = e'.control) : isInline e = isInline e' := by
  unfold isInline
  rw [hc]

theorem SameScope.includeTable (hc : S.SameScope G c c') (he : S.SameElement F e e') :
    S.SameOp F.toFailing S.SameTable (includeTable c e) (includeTable c' e') :=
  .ite (by rw [isInline_same he.control]) (.pure hc.table) (.make fun hw => hw.allocTable)

theorem SameDraft.prepareInclusion (hd : S.SameDraft F l G d d') (hc : S.SameScope G c c')
    {n n' : Option NestedLoad} (hn : S.SameDepth F l n n') (he : S.SameElement F e e')
    {w w' : World} (hw : S.SameWorld w w')
    (hs : ∀ {s src z}, e.control.get? srcAttribute = some s →
      (includeSource c s).runIn w = (.ok src, z) → l.sourceUrl c src = l.sourceUrl c' src) :
    S.SameRun F.toFailing (S.SameInclusion F) ((prepareInclusion l c n d e).runIn w)
      ((prepareInclusion l c' n' d' e').runIn w') := by
  unfold Bxml.prepareInclusion
  rw [← he.control]
  cases hsrc : e.control.get? srcAttribute with
  | none =>
    exact SameRun.bind (R := fun _ _ => False) (.error (he.location _) hw) fun _ h => h.elim
  | some s =>
    rw [orFail_some, orFail_some, pure_bind, pure_bind]
    refine SameRun.bind (hc.includeSource s _ _ hw) fun {src src' v v'} hi hs' hv => ?_
    obtain rfl := hs'
    have url := hs hsrc hi
    have nested : S.SameOp F.toFailing (S.SameNested F)
        (orFail e.location (.tooDeep src l.maxDepth) n)
        (orFail e'.location (.tooDeep src l.maxDepth) n') := by
      cases hn with
      | none => exact .failAt he.location _
      | some hn => exact .pure hn
      | lost hn => exact fun _ _ _ => .lost (hn _ _)
    refine SameOp.bind nested (fun hn => ?_) _ _ hv
    refine .bind (includeBundle_same hc.bundle he.control he.location) fun hb => ?_
    refine .bind (includeCharset_same he.control) fun hx => .bind (hc.includeTable he) fun ht => ?_
    rw [url]
    refine .bind (.ofExceptSame _) fun {u u'} hu => ?_
    obtain rfl := hu
    rw [isInline_same he.control]
    refine .bind (.log _ _ _ _) fun _ => .pure ⟨hn, rfl, hx, ⟨ht, hb, ?_⟩, rfl⟩
    exact (hd.held hc he.heldValues).keepTable ht

/-- An included document is read and loaded. -/
theorem SameInclusion.load {x x' : NestedLoad × Inclusion} (hx : S.SameInclusion F x x')
    {parented parented' : List ObjectId} (hp : S.SameMembers parented parented') :
    S.SameOp F.toFailing (S.SameRoot parented') (x.2.load l x.1 parented) (x'.2.load l x'.1 parented') := by
  unfold Inclusion.load
  rw [hx.url, hx.charset]
  refine .mapError (F := F.toFailing) ?_ F.included F.lost_included
  refine .bind (.ofExceptSame _) fun {source source'} hs => ?_
  obtain rfl := hs
  exact .bind (hx.nested source (hx.context.bare _) hp) fun ho => .pure ⟨ho.root, ho.parented, ho.kept⟩

/-! ## What elements stand for -/

theorem classifyControl_same {s s' : List Element} (hs : S.SameStack F G s s') (name : String)
    (hl : F.Located at_ at') :
    S.SameOp F.toFailing S.SameClassified (classifyControl s name at_)
      (classifyControl s' name at') := by
  unfold classifyControl
  rw [hs.isEmpty]
  refine .bind (.require hl _ rfl) fun _ => .bind (.orFailSame hl _ _) fun {k k'} hk => ?_
  exact .pure ⟨hk, rfl, .null⟩

theorem classifyReadOnly_same {x x' : Object} (hx : S.SameState x x') (name parent : String)
    (hl : F.Located at_ at') :
    S.SameOp F.toFailing S.SameClassified (classifyReadOnly x name parent at_)
      (classifyReadOnly x' name parent at') := by
  unfold classifyReadOnly
  refine .bind (.mapSame (.ofExcept (hx.getProperty name)) _) fun hv => ?_
  exact .bind (.require hl _ (by rw [hv.isNull])) fun _ => .pure ⟨rfl, rfl, hv⟩

theorem classifyProperty_same {s s' : List Element} (hs : S.SameStack F G s s') (name : String)
    (hl : F.Located at_ at') :
    S.SameOp F.toFailing S.SameClassified (classifyProperty s name at_)
      (classifyProperty s' name at') := by
  unfold classifyProperty
  refine .bind (.orFail hl _ hs.head?) fun {p p'} hp => ?_
  rw [hp.kind, hp.name]
  refine .bind (.objectOr hl _ hp.value) fun ho => .bind (.object ho) fun {x x'} hx => ?_
  have dictionary : x.dictionary?.isSome = x'.dictionary?.isSome := by
    obtain ⟨h, h'⟩ | ⟨_, _, h, h', -⟩ := hx.dictionary?.none_or_some
    · rw [h, h']
    · rw [h, h', Option.isSome_some, Option.isSome_some]
  refine .ite (by rw [dictionary]) (.pure ⟨rfl, rfl, .null⟩) ?_
  rw [hx.propertyKind]
  split
  · exact .failAt hl _
  · exact .pure ⟨rfl, rfl, .null⟩
  · exact classifyReadOnly_same hx _ _ hl
  · exact .pure ⟨rfl, rfl, .null⟩

theorem classifyAttached_same {s s' : List Element} (hs : S.SameStack F G s s')
    (tag : Xml.StartTag) (owner property : String) (hl : F.Located at_ at') :
    S.SameOp F.toFailing S.SameClassified (classifyAttached s tag owner property at_)
      (classifyAttached s' tag owner property at') := by
  unfold classifyAttached
  refine .bind (.orFail hl _ hs.head?) fun {p p'} hp => ?_
  rw [hp.kind]
  exact .bind (.objectOr hl _ hp.value) fun _ => .pure ⟨rfl, rfl, .null⟩

theorem Uniform.classify (hu : S.Uniform l) {s s' : List Element} (hs : S.SameStack F G s s')
    (tag : Xml.StartTag) (hl : F.Located at_ at') :
    S.SameOp F.toFailing S.SameClassified (classify l s tag at_) (classify l s' tag at') := by
  unfold Bxml.classify
  refine .ite Iff.rfl (classifyControl_same hs _ hl) ?_
  split
  · exact classifyAttached_same hs tag _ _ hl
  · refine .ite Iff.rfl ?_ (.ite Iff.rfl (.failAt hl _) (classifyProperty_same hs _ hl))
    refine .bind (.mapSame (hu.construct _) _) fun ho => .bind (.log _ _ _ _) fun _ => ?_
    exact .pure ⟨rfl, rfl, .object ho⟩

/-! ## Attributes of elements -/

theorem SameScope.checkId (hc : S.SameScope G c c') (kind : ElementKind) (id : String)
    (hl : F.Located at_ at') :
    S.SameOp F.toFailing Eq (checkId c kind id at_) (checkId c' kind id at') := by
  unfold Bxml.checkId
  refine .bind (.require hl _ rfl) fun _ => .bind (R := Eq) (.check fun hw => ?_) fun _ =>
    .require hl _ rfl
  rw [(hw.table hc.table).contains]
  split
  · exact .error _
  · exact .ok rfl

theorem SameScope.add (hc : S.SameScope G c c') (uri : Option String) {x x' : Attributed}
    (hx : S.SameAttributed F x x') {a : Xml.MarkupAttribute} (hm : SameMeaning c c' a.value) :
    S.SameOp F.toFailing (S.SameAttributed F) (Attributed.add c uri x a)
      (Attributed.add c' uri x' a) := by
  obtain ⟨⟨kind, name, v, id, control, attributes, attached, text, location⟩, bound⟩ := x
  obtain ⟨⟨_, _, v', _, _, attributes', _, _, location'⟩, _⟩ := x'
  obtain ⟨⟨rfl, rfl, hv, rfl, rfl, ha, rfl, rfl, hl⟩, rfl⟩ := hx
  dsimp only at hv ha hl
  unfold Attributed.add
  refine .ite Iff.rfl ?id (.ite Iff.rfl (.pure ?control) ?rest)
  case id =>
    refine .bind (.require hl _ rfl) fun _ => .bind (hc.checkId _ _ hl) fun _ => ?_
    exact .pure ⟨⟨rfl, rfl, hv, rfl, rfl, ha, rfl, rfl, hl⟩, rfl⟩
  case control => exact ⟨⟨rfl, rfl, hv, rfl, rfl, ha, rfl, rfl, hl⟩, rfl⟩
  case rest =>
    have resolved : S.SameOp F.toFailing (S.SameAttributed F)
        (Attributed.addResolved c
          ⟨⟨kind, name, v, id, control, attributes, attached, text, location⟩, bound⟩ a)
        (Attributed.addResolved c'
          ⟨⟨kind, name, v', id, control, attributes', attached, text, location'⟩, bound⟩ a) := by
      refine .bind (hc.resolveAttribute hm hl) fun hu => ?_
      cases hu with
      | resolved hu =>
        exact .pure ⟨⟨rfl, rfl, hv, rfl, rfl, ha.insert _ hu, rfl, rfl, hl⟩, rfl⟩
      | binding expression => exact .pure ⟨⟨rfl, rfl, hv, rfl, rfl, ha, rfl, rfl, hl⟩, rfl⟩
    split
    · refine .bind (.require hl _ rfl) fun _ => ?_
      exact .pure ⟨⟨rfl, rfl, hv, rfl, rfl, ha, rfl, rfl, hl⟩, rfl⟩
    · cases kind with
      | listeners =>
        exact .pure ⟨⟨rfl, rfl, hv, rfl, rfl, ha.insert _ (.string _), rfl, rfl, hl⟩, rfl⟩
      | script | definition | writable | attached => exact .failAt hl _
      | instanceOf | readOnly | inclusion | reference => exact resolved

/-! ## Starts -/

theorem SameScope.resolveReference (hc : S.SameScope G c c') (he : S.SameElement F e e') :
    S.SameOp F.toFailing S.SameValue (resolveReference c e) (resolveReference c' e') := by
  unfold Bxml.resolveReference
  rw [he.control]
  refine .bind (.orFailSame he.location _ _) fun {id id'} hi => .check fun hw => ?_
  obtain rfl := hi
  obtain ⟨h, h'⟩ | ⟨_, _, h, h', hv⟩ := ((hw.table hc.table).get? id).none_or_some
  · rw [h, h']
    exact .error _
  · rw [h, h']
    exact .ok hv

theorem SameAttributed.pendingBindings {x x' : Attributed} (hx : S.SameAttributed F x x') :
    S.SameOp F.toFailing (List.Forall₂ (S.SamePending F)) (pendingBindings x)
      (pendingBindings x') := by
  have he := hx.element
  unfold Bxml.pendingBindings
  dsimp only
  rw [hx.bound, he.kind, he.name]
  refine .ite Iff.rfl (.pure .nil) ?_
  refine .bind (.require he.location _ rfl) fun _ => .bind (.objectOr he.location _ he.value) ?_
  refine fun ho => .pure ?_
  rw [List.forall₂_map_left_iff, List.forall₂_map_right_iff, List.forall₂_same]
  exact fun p _ => ⟨ho, rfl, rfl, he.location⟩

theorem SameScope.addAttributes (hc : S.SameScope G c c') (tag : Xml.StartTag)
    (hm : ∀ a ∈ tag.attributes, SameMeaning c c' a.value) {x x' : Attributed}
    (hx : S.SameAttributed F x x') :
    S.SameOp F.toFailing (S.SameAttributed F)
      (tag.attributes.foldlM (Attributed.add c tag.namespaceUri) x)
      (tag.attributes.foldlM (Attributed.add c' tag.namespaceUri) x') := by
  refine .foldlM (R := fun a b => a = b ∧ SameMeaning c c' a.value)
    (List.forall₂_same.2 fun a ha => ⟨rfl, hm a ha⟩) hx ?_
  rintro x x' a _ hx ⟨rfl, hm⟩
  exact hc.add _ hx hm

theorem Uniform.startElement (hu : S.Uniform l) (hd : S.SameDraft F l G d d')
    (hc : S.SameScope G c c') {n n' : Option NestedLoad} (hn : S.SameDepth F l n n')
    {tag : Xml.StartTag} (hl : F.Located at_ at') {w w' : World} (hw : S.SameWorld w w')
    (hs : SameStart l c c' d tag at_ w) :
    S.SameRun F.toFailing (fun x x' => S.SameAttributed F x.1 x'.1 ∧ S.SameOrigin F x.2 x'.2)
      ((startElement l c n d tag at_).runIn w) ((startElement l c' n' d' tag at').runIn w') := by
  unfold Bxml.startElement
  refine SameRun.bind (hu.classify hd.stack tag hl _ _ hw) fun {k k' u u'} hf hk hu => ?_
  have new : S.SameAttributed F ⟨.new k.kind k.name k.value at_, []⟩
      ⟨.new k'.kind k'.name k'.value at', []⟩ := by
    rw [hk.kind, hk.name]
    exact ⟨.new _ _ hk.value hl, rfl⟩
  have attributes := hc.addAttributes tag hs.attributes new
  refine SameRun.bind (attributes _ _ hu) fun {x x' v v'} hx hxx' hv => ?_
  rw [← hk.kind]
  split
  · next inclusion =>
    refine SameRun.bind (hd.prepareInclusion hc hn hxx'.element hv fun hsrc hi => ?_) ?_
    · exact hs.source ⟨k, x, _, u, v, _, hf, inclusion, hx, hsrc, hi⟩
    · exact fun _ hi hw => .ok ⟨hxx', .inclusion hi⟩ hw
  · refine SameOp.bind (hc.resolveReference hxx'.element) (fun hv => ?_) _ _ hv
    exact .pure ⟨hxx', .known hv⟩
  · exact .ok ⟨hxx', .known hxx'.element.value⟩ hv

/-- What is pushed may be the first element above a ground. -/
theorem SameParts.push (hd : S.SameParts F G d d') (hlang : d.languageIn l = d'.languageIn l)
    (hset : d.language.isSome = d'.language.isSome) {x x' : Attributed}
    (hx : S.SameAttributed F x x') {v v' : Value} (hv : S.SameValue v v')
    {parented parented' : List ObjectId} (hp : S.SameMembers parented parented')
    (hk : G.parented ⊆ parented') :
    S.SameOp F.toFailing (S.SameDraft F l G) (d.push x v parented) (d'.push x' v' parented') := by
  have he := hx.element.withValue hv
  have pushed : S.SameAttributed F { x with element := { x.element with value := v } }
      { x' with element := { x'.element with value := v' } } := ⟨he, hx.bound⟩
  obtain ⟨top, hs, elements⟩ := hd.elements
  obtain ⟨rest, hr, pending⟩ := hd.bindings
  refine .bind pushed.pendingBindings fun hb => .pure ⟨⟨⟨_ :: top, ?_, .cons he elements⟩, hd.root,
    ⟨rest ++ _, ?_, List.rel_append pending hb⟩, hp, hk⟩, .inl nofun, hlang, hset⟩
  · exact congrArg _ hs
  · rw [hr, List.append_assoc]

theorem Uniform.openElement (hu : S.Uniform l) (hd : S.SameDraft F l G d d')
    (hc : S.SameScope G c c') {n n' : Option NestedLoad} (hn : S.SameDepth F l n n')
    {tag : Xml.StartTag} (hl : F.Located at_ at') {w w' : World} (hw : S.SameWorld w w')
    (hs : SameStart l c c' d tag at_ w) :
    S.SameRun F.toFailing (S.SameDraft F l G) ((d.openElement l c n tag at_).runIn w)
      ((d'.openElement l c' n' tag at').runIn w') := by
  have hd := hd.settleLanguage
  refine SameRun.bind (hu.startElement hd hc hn hl hw ⟨hs.attributes, hs.source⟩) ?_
  rintro ⟨x, origin⟩ ⟨x', origin'⟩ v v' - ⟨hx, ho⟩ hv
  cases ho with
  | inclusion hi =>
    refine SameOp.bind (hi.load hd.parented) (fun hr => ?_) _ _ hv
    exact hd.push hd.language hd.settled hx hr.root hr.parented (List.Subset.trans hd.kept hr.kept)
  | known hu => exact hd.push hd.language hd.settled hx hu hd.parented hd.kept _ _ hv

end Bxml.Twins
