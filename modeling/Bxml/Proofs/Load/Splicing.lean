import Bxml.Proofs.Load.Handover

/-!
# Splicing

An inline include comes to the same as the root of its document in its place.  The two runs differ
in what is below the open elements while the root is built: in the included document nothing, in the
other one the elements, bindings and parents of the including document.  They differ in the order in
which the root is finished, too: an include hands it over once everything else is done.

* `Xml.Single` is a document that consists of one instance, `Xml.Splice` a document with an element
  in the place of an include, and `Site.Suits` says that the included document means the same at a
  site.
* `Site.Suits.sameRun_inside` compares the runs up to the end of the root, by the relations of
  `Twins/` above a ground that has what is below.
* `Site.alike_closing` compares the ends: the attributes come first in both runs, and then the two
  orders come to the same by `commutes` (`Load/Handover.lean`).
* `Site.alike_items` is the result, for the events of the include element and those of the root.
-/

namespace Bxml

namespace Xml

/-- Whether an element is an instance. -/
structure StartTag.IsInstance (tag : StartTag) : Prop where
  space : tag.space ≠ some controlPrefix
  attached : splitAttached? tag.name = none
  upper : startsWith Text.isUppercase tag.name.toList = true

/-- A document that consists of one instance: there are only blank texts around it and no
instructions. -/
structure Single (es : Events) where
  lead : List Located
  root : Markup
  trail : List Located
  items_eq : es.items = lead ++ (root.items ++ trail)
  lead_blank : ∀ x ∈ lead, ∃ text, x.event = .characters text ∧ Text.isAllBlank text = true
  trail_blank : ∀ x ∈ trail, ∃ text, x.event = .characters text ∧ Text.isAllBlank text = true
  is_instance : root.tag.IsInstance
  uninstructed : ∀ x ∈ root.content, ∀ target data, x.event ≠ .instruction target data
  fault : es.fault = none

/-- A document that is another one with an inline include replaced by an element. -/
structure Splice (es es' : Events) (root : Markup) where
  before : List Located
  inclusion : Markup
  after : List Located
  items_eq : es.items = before ++ (inclusion.items ++ after)
  events_eq : es'.items.map (·.event) = (before ++ (root.items ++ after)).map (·.event)
  fault : es.fault.isSome = es'.fault.isSome

end Xml

/-- Whether nothing is said of a load because documents are included too deep in it. -/
def LoadError.IsTooDeep (e : LoadError) : Prop :=
  ∃ src limit at_, e.rootCause = .structural (.tooDeep src limit) at_

/-- All failures are alike; documents that are included too deep say nothing. -/
def Faults.unlessTooDeep : Faults := .loose LoadError.IsTooDeep id

/-- Whether the sources of all documents that are included in the one that is asked for are the same
in all documents. -/
def Site.FixesSources (X : Site) (items : List Xml.Located) : Prop :=
  ∀ before x after tag d v src, items = before ++ x :: after → x.event = .start tag →
    X.taken before = (.ok d, v) → Twins.AsksFor X.loader X.inner d tag x.location v src →
      X.loader.IsFixed src

/-- Whether a document means the same where it is included and in the including document: that one
has a location and the usual language, values and sources are portable, nothing is run on the root,
and if an object takes the root, that is bare or separated from the object. -/
structure Site.Suits (X : Site) {es : Xml.Events} (C : Xml.Single es) : Prop where
  located : X.context.location.isSome = true
  language : X.draft.languageIn X.loader = X.loader.language
  portable : C.root.tag.IsPortable X.loader ∧
    ∀ x ∈ C.root.content, ∀ tag, x.event = .start tag → tag.IsPortable X.loader
  sources : X.FixesSources es.items
  initializes : X.Initializes es.items
  separated : ∀ d v e z o, X.taken (C.lead ++ C.root.opening :: C.root.content) = (.ok d, v) →
    d.stack = [e] → (applyAttributes X.loader ((d.withStack []).held X.inner e.heldValues) e).runIn
      v = (.ok (), z) → receiver? X.draft.stack e.location = .ok (some (.object o)) →
    e.IsBare ∨ ∃ B, Separated X.loader X.context (X.resumed d.parented) e o z B

namespace Twins

variable {S : Twins} {F : Faults} {l : Loader} {G : Ground} {c c' : DocumentContext} {d d' : Draft}
  {e e' : Element} {at_ at' : Location} {h h' : Held}

/-! ## Instances above a ground -/

theorem classify_of_instance {tag : Xml.StartTag} (ht : tag.IsInstance) (stack : List Element)
    (at_ : Location) : classify l stack tag at_ = classifyInstance l tag := by
  unfold Bxml.classify
  rw [if_neg ht.space, ht.attached]
  exact if_pos ht.upper

/-- What an instance starts with does not depend on the elements around it. -/
theorem Uniform.openInstance (hu : S.Uniform l) (hd : S.SameParts F G d d')
    (hlang : d.languageIn l = d'.languageIn l) (hc : S.SameScope G c c')
    {n n' : Option NestedLoad} {tag : Xml.StartTag} (ht : tag.IsInstance)
    (hm : ∀ a ∈ tag.attributes, SameMeaning c c' a.value) (hl : F.Located at_ at') :
    S.SameOp F.toFailing (S.SameDraft F l G) (d.openElement l c n tag at_)
      (d'.openElement l c' n' tag at') := by
  have settled : S.SameParts F G (d.settleLanguage l) (d'.settleLanguage l) := { hd with }
  have classified : S.SameOp F.toFailing
      (fun x x' => S.SameClassified x x' ∧ x.kind = .instanceOf)
      (Bxml.classify l (d.settleLanguage l).stack tag at_)
      (Bxml.classify l (d'.settleLanguage l).stack tag at') := by
    rw [classify_of_instance ht, classify_of_instance ht]
    refine .bind (.mapSame (hu.construct _) _) fun ho => .bind (.log _ _ _ _) fun _ => ?_
    exact .pure ⟨⟨rfl, rfl, .object ho⟩, rfl⟩
  unfold Draft.openElement Bxml.startElement
  simp only [bind_assoc]
  refine .bind classified fun {k k'} hk => ?_
  obtain ⟨hk, instanceOf⟩ := hk
  have new : S.SameAttributed F ⟨.new k.kind k.name k.value at_, []⟩
      ⟨.new k'.kind k'.name k'.value at', []⟩ := by
    rw [hk.kind, hk.name]
    exact ⟨.new _ _ hk.value hl, rfl⟩
  refine .bind (hc.addAttributes tag hm new) fun {x x'} hx => ?_
  rw [← hk.kind, instanceOf]
  exact settled.push hlang rfl hx hx.element.value hd.parented hd.kept

/-- Inside an element above a ground all events do the same, as long as the element does not end. -/
theorem Uniform.takeInside (hu : S.Uniform l) (hd : S.SameDraft F l G d d')
    (hc : S.SameScope G c c') {n n' : Option NestedLoad} (hn : S.SameDepth F l n n')
    {k : ElementKind} {m m' : Nat} (hk : d.Inside k m) {items : List Xml.Located}
    (hi : Xml.levelAfter m items = some m') {w w' : World} (hw : S.SameWorld w w')
    (hm : ∀ before x after a v, items = before ++ x :: after →
      (Bxml.takeEvents l c n d before).runIn w = (.ok a, v) → SameEvent l c c' a x v) :
    S.SameRun F.toFailing (S.SameDraft F l G) ((Bxml.takeEvents l c n d items).runIn w)
      ((Bxml.takeEvents l c' n' d' items).runIn w') := by
  induction items generalizing d d' m w w' with
  | nil => exact .ok hd hw
  | cons x r ih =>
    obtain ⟨j, hj, hi⟩ := Xml.levelAfter_cons_eq_some.1 hi
    have inside : x.event = .close → d.stack.length ≠ 1 ∨ G.stack = [] := by
      intro hx
      rw [hx] at hj
      refine .inl fun one => ?_
      rw [hk.length_stack] at one
      obtain rfl : m = 0 := Nat.succ.inj one
      cases hj
    have step := hu.step hd hc hn rfl (F.located_refl x.location) inside hw
      (hm [] x r d w rfl rfl)
    refine SameRun.bind (step.onError fun hw => reportFailure_same hw _ _) fun {a a' v v'} ha hd hv => ?_
    have ha : (d.step l c n x).runIn w = (.ok a, v) := Op.onError_runIn_eq_ok.1 ha
    refine ih hd (hk.step hj ha) hi hv fun before y after b u hy hb => ?_
    exact hm (x :: before) y after b u (congrArg _ hy) (takeEvents_cons_eq_ok.2 ⟨a, v, ha, hb⟩)

/-! ## Depths -/

/-- There is a way to include documents at each depth, and it does the same as itself. -/
theorem Uniform.deeper (hu : S.Uniform l) (n : Nat) : S.SameDepth F l (l.deeper n) (l.deeper n) := by
  cases n with
  | zero => exact .none
  | succ n => exact .some (hu.loadNested (Nat.le_refl n) (.inl rfl))

/-- Where documents may be included deeper, the same documents can be included, unless some are too
deep. -/
theorem Uniform.deeper_succ (hu : S.Uniform l)
    (hf : ∀ src at_, F.lost (.structural (.tooDeep src l.maxDepth) at_)) (n : Nat) :
    S.SameDepth F l (l.deeper n) (l.deeper (n + 1)) := by
  cases n with
  | zero => exact .lost hf
  | succ n => exact .some (hu.loadNested (Nat.le_succ n) (.inr hf))

end Twins

open Twins

variable {l : Loader} {c : DocumentContext} {nested : Option NestedLoad} {d d' : Draft} {w v : World}

/-- The start of an instance puts an instance on the stack. -/
theorem Draft.step_instance {x : Xml.Located} {tag : Xml.StartTag} (hx : x.event = .start tag)
    (ht : tag.IsInstance) (hp : tag.IsPortable l)
    (h : (d.step l c nested x).runIn w = (.ok d', v)) :
    ∃ e, d'.stack = e :: d.stack ∧ e.kind = .instanceOf := by
  unfold Draft.step at h
  rw [hx] at h
  have started {α : Type} {y : Attributed} {origin : Origin α} {n : Option α} {u : World}
      (h : (startElement l c n (d.settleLanguage l) tag x.location).runIn w = (.ok (y, origin), u)) :
      y.element.kind = .instanceOf := by
    simp only [startElement, classify_of_instance ht, classifyInstance, Op.bind_runIn_eq_ok] at h
    obtain ⟨found, _, ⟨o, _, -, _, _, -, hf⟩, z, _, hz, h⟩ := h
    cases hf
    cases h
    exact (Attributed.of_foldlM_add hz hp.attributes).1
  obtain ⟨y, u, ⟨_, _, _, _, _, hs, -, hp⟩ | ⟨_, hs, hp⟩⟩ := Draft.openElement_eq_ok h
  all_goals
    obtain ⟨-, bindings, rfl⟩ := Draft.push_eq_ok hp
    exact ⟨_, rfl, started hs⟩

namespace Site

variable {X : Site} {es : Xml.Events} {C : Xml.Single es}

/-- What an instance is built on when it takes the place of an include. -/
def ground (X : Site) (h : X.draft.stack ≠ []) : Ground :=
  ⟨X.draft.stack, X.draft.root, X.draft.bindings, X.draft.parented, X.draft.parented,
    List.Subset.refl _, fun hs => absurd hs h⟩

theorem sameScope_inner (h : X.draft.stack ≠ []) :
    itself.SameScope (X.ground h) X.inner X.context where
  table := sameTable_itself.2 rfl
  bundle := (sameContext_itself X.context []).bundle
  held := by
    refine sameHeld_itself (fun o => ?_) fun t => ?_
    · simp [inner, ground, Draft.held, Draft.heldValues, Held.keep, Held.keepTable,
        Ground.heldValues]
    · simp [inner, Draft.held, Held.keep, Held.keepTable]

theorem sameParts_start (F : Faults) (h : X.draft.stack ≠ []) :
    itself.SameParts F (X.ground h) (.start X.draft.parented) X.draft where
  elements := ⟨[], rfl, .nil⟩
  root := .inr ⟨rfl, rfl⟩
  bindings := ⟨[], (List.append_nil _).symm, .nil⟩
  parented := sameMembers_itself _
  kept := List.Subset.refl _

theorem taken_lead (C : Xml.Single es) (items : List Xml.Located) :
    X.taken (C.lead ++ items) = (takeEvents X.loader X.inner (X.loader.deeper X.depth)
      (.start X.draft.parented) items).runIn X.start := by
  unfold taken
  rw [takeEvents_append, takeEvents_of_blank C.lead_blank, pure_bind]

/-- What the end of the root does in the included document. -/
def endRoot (X : Site) (d : Draft) (e : Element) : Op LoadError Unit := do
  applyAttributes X.loader ((d.withStack []).held X.inner e.heldValues) e
  applyAttachments X.loader X.inner ((d.withStack []).held X.inner e.heldValues)
    (d.languageIn X.loader) e

/-- Nothing but the end of its root is left in the included document. -/
theorem taken_closing {e : Element}
    (h : X.taken (C.lead ++ C.root.opening :: C.root.content) = (.ok d, v)) (hd : d.stack = [e])
    (hk : e.kind = .instanceOf) :
    X.taken es.items = (Op.onError (do
        X.endRoot d e
        return { d.withStack [] with root := some e.value })
      (reportFailure X.inner C.root.closing.seen)).runIn v := by
  have items : es.items = (C.lead ++ C.root.opening :: C.root.content) ++
      ([C.root.closing] ++ C.trail) := by
    rw [C.items_eq, Xml.Markup.items]
    simp
  have trail (d : Draft) : takeEvents X.loader X.inner (X.loader.deeper X.depth) d C.trail = pure d :=
    takeEvents_of_blank C.trail_blank
  unfold taken at h ⊢
  rw [items, takeEvents_append, Op.bind_runIn_of_ok h, takeEvents_append, takeEvents_singleton]
  simp only [trail, bind_pure]
  unfold Draft.step endRoot
  rw [C.root.closing_event]
  dsimp only
  rw [Draft.closeElement_of_instance hd hk, composeFirst_of_nil rfl]
  simp only [bind_assoc, pure_bind]
  rfl

namespace Suits

variable (hs : X.Suits C)

include hs

/-- Nothing in the included document depends on where it is. -/
theorem sameEvent {before after : List Xml.Located} {x : Xml.Located}
    (hx : es.items = before ++ x :: after) (hr : X.taken before = (.ok d, v))
    (hd : d.IsPortable X.loader) (hp : ∀ tag, x.event = .start tag → tag.IsPortable X.loader) :
    SameEvent X.loader X.inner X.context d x v := by
  have fixed {src : String} (h : X.loader.IsFixed src) :
      X.loader.sourceUrl X.inner src = X.loader.sourceUrl X.context src := h _ _ rfl hs.located
  unfold SameEvent
  split
  · next tag ht =>
    have portable := hp tag ht
    exact ⟨fun a ha => .inr (portable.attributes a ha).located,
      fun ha => fixed (hs.sources _ _ _ tag _ _ _ hx ht hr ha)⟩
  · intro e outer he
    have portable := hd.stack e (he ▸ List.mem_cons_self)
    exact ⟨fun a ha => .inr (portable.attached a ha), fun hk src h => fixed (portable.script hk src h)⟩
  · trivial
  · trivial

/-- What the included document is like once its root has started. -/
theorem taken_opening {items : List Xml.Located}
    (h : X.taken (C.lead ++ C.root.opening :: items) = (.ok d, v)) :
    ∃ a u, (Draft.step X.loader X.inner (X.loader.deeper X.depth) (.start X.draft.parented)
        C.root.opening).runIn X.start = (.ok a, u) ∧
      (takeEvents X.loader X.inner (X.loader.deeper X.depth) a items).runIn u = (.ok d, v) ∧
      a.IsPortable X.loader ∧ a.language = some X.loader.language ∧ a.Inside .instanceOf 0 := by
  rw [taken_lead] at h
  obtain ⟨a, u, ha, h⟩ := takeEvents_cons_eq_ok.1 h
  have opening := C.root.opening_event
  refine ⟨a, u, ha, h, ?portable, Draft.language_of_start opening ha, ?inside⟩
  case portable =>
    refine (Draft.IsPortable.start _).step (fun tag ht => ?_) ha
    rw [opening] at ht
    cases ht
    exact hs.portable.1
  case inside =>
    obtain ⟨e, he, hk⟩ := Draft.step_instance opening C.is_instance hs.portable.1 ha
    exact ⟨[], by simp [Draft.kinds, he, hk, Draft.start], rfl⟩

/-- What the included document is like inside its root. -/
theorem taken_content {before after : List Xml.Located} (hc : C.root.content = before ++ after)
    (h : X.taken (C.lead ++ C.root.opening :: before) = (.ok d, v)) :
    d.IsPortable X.loader ∧ d.language = some X.loader.language := by
  obtain ⟨a, u, -, h, portable, language, -⟩ := hs.taken_opening h
  have content {x : Xml.Located} (hx : x ∈ before) : x ∈ C.root.content :=
    hc ▸ List.mem_append_left _ hx
  exact ⟨takeEvents_preserves (fun x hx _ _ _ _ hd h => hd.step (hs.portable.2 x (content hx)) h)
      portable h,
    takeEvents_preserves (P := fun d => d.language = some X.loader.language)
      (fun x hx _ _ _ _ hd h => Draft.step_language h (C.uninstructed x (content hx)) hd) language h⟩

/-- Up to the end of the root the included document and the including one, in which the root stands
in the place of the include, do the same. -/
theorem sameRun_inside (hl : X.loader.IsDeterministic) (hd : X.draft.stack ≠ []) :
    itself.SameRun Faults.unlessTooDeep.toFailing
      (itself.SameDraft .unlessTooDeep X.loader (X.ground hd))
      (X.taken (C.lead ++ C.root.opening :: C.root.content))
      ((takeEvents X.loader X.context (X.loader.deeper (X.depth + 1)) X.draft
        (C.root.opening :: C.root.content)).runIn X.world) := by
  have start : itself.SameWorld X.start X.world := sameWorld_itself.2 X.agrees_start.symm
  have opened : itself.SameOp Faults.unlessTooDeep.toFailing
      (itself.SameDraft .unlessTooDeep X.loader (X.ground hd))
      (Draft.step X.loader X.inner (X.loader.deeper X.depth) (.start X.draft.parented) C.root.opening)
      (Draft.step X.loader X.context (X.loader.deeper (X.depth + 1)) X.draft C.root.opening) := by
    unfold Draft.step
    rw [C.root.opening_event]
    refine hl.openInstance (sameParts_start _ hd) hs.language.symm (sameScope_inner hd)
      C.is_instance (fun a ha => .inr (hs.portable.1.attributes a ha).located) fun _ => trivial
  have deeper := hl.deeper_succ (F := .unlessTooDeep)
    (fun src at_ => ⟨src, X.loader.maxDepth, at_, rfl⟩) X.depth
  rw [taken_lead]
  refine SameRun.bind ((opened _ _ start).onError fun hw => reportFailure_same hw _ _)
    fun {a a' u u'} ha hda hu => ?_
  have ha : (Draft.step X.loader X.inner (X.loader.deeper X.depth) (.start X.draft.parented)
      C.root.opening).runIn X.start = (.ok a, u) := Op.onError_runIn_eq_ok.1 ha
  have reached (before : List Xml.Located) {b : Draft} {z : World}
      (hb : (takeEvents X.loader X.inner (X.loader.deeper X.depth) a before).runIn u = (.ok b, z)) :
      X.taken (C.lead ++ C.root.opening :: before) = (.ok b, z) := by
    rw [taken_lead]
    exact takeEvents_cons_eq_ok.2 ⟨a, u, ha, hb⟩
  obtain ⟨_, _, ha', -, -, -, inside⟩ := hs.taken_opening (reached [] rfl)
  rw [ha] at ha'
  cases ha'
  refine hl.takeInside hda (sameScope_inner hd) deeper inside C.root.balanced hu
    fun before x after b z hx hb => ?_
  have items : es.items = (C.lead ++ C.root.opening :: before) ++
      x :: (after ++ C.root.closing :: C.trail) := by
    rw [C.items_eq, Xml.Markup.items, hx]
    simp
  have portable := (hs.taken_content hx (reached before hb)).1
  exact hs.sameEvent items (reached before hb) portable (hs.portable.2 x (hx ▸ by simp))

/-- When the root is about to end, the including document in which it stands is what it would be
when the include is about to end. -/
theorem resumed_of_sameDraft (hd : X.draft.stack ≠ []) {a : Draft} {e : Element}
    (h : itself.SameDraft .unlessTooDeep X.loader (X.ground hd) d a) (hs' : d.stack = [e])
    (hb : d.bindings = []) (hl : d.language = some X.loader.language) :
    ∃ e', a.stack = e' :: X.draft.stack ∧ itself.SameElement .unlessTooDeep e e' ∧
      itself.SameParts .all (X.ground hd) (d.withStack []) (a.withStack X.draft.stack) ∧
      itself.SameDraft .all X.loader (.bare []) (X.resumed d.parented)
        (a.withStack X.draft.stack) := by
  obtain ⟨top, ht, he⟩ := h.elements
  obtain ⟨rest, hr, pending⟩ := h.bindings
  rw [hs'] at he
  rw [hb] at pending
  cases pending
  obtain ⟨e', _, same, last, rfl⟩ := List.forall₂_cons_left_iff.1 he
  cases last
  obtain ⟨-, hg⟩ | ⟨hroot, hroot'⟩ := h.root
  · exact absurd hg hd
  have root : a.root = X.draft.root := hroot'
  have bindings : a.bindings = X.draft.bindings := hr.trans (List.append_nil _)
  have language : a.language = some X.loader.language := by
    have same := h.language
    have settled := h.settled
    rw [hl] at settled
    obtain ⟨language, ha⟩ := Option.isSome_iff_exists.1 settled.symm
    simp only [Draft.languageIn, hl, ha, Option.getD_some] at same
    rw [ha, same]
  refine ⟨e', ht, same, ?parts, ?draft⟩
  case parts =>
    have unbound : (d.withStack []).bindings = [] := hb
    refine ⟨⟨[], rfl, .nil⟩, .inr ⟨hroot, hroot'⟩, ⟨[], hr, ?_⟩, h.parented, h.kept⟩
    rw [unbound]
    exact .nil
  case draft =>
    have same : a.withStack X.draft.stack = X.resumed a.parented := by
      unfold Draft.withStack resumed Draft.settleLanguage
      rw [root, bindings, language, hs.language]
    rw [same]
    exact { sameDraft_itself .all X.loader (X.resumed d.parented) (List.nil_subset _) with
      parented := h.parented
      kept := List.nil_subset _ }

end Suits

variable {m : Xml.Markup} {source : String} {S : Xml.Single (Xml.events source)}

/-- From the end of the root on, an include hands it over once everything else is done. -/
theorem alike_inclusion (hl : X.loader.IsDeterministic) (hi : X.Includes m source)
    (hs : X.Suits S) (hx : X.taken (S.lead ++ S.root.opening :: S.root.content) = (.ok d, v))
    {e : Element} (he : d.stack = [e]) (hk : e.kind = .instanceOf) (hb : d.bindings = []) :
    Alike (fun _ => False) (itself.SameDraft .all X.loader (.bare []))
      ((takeEvents X.loader X.context (X.loader.deeper (X.depth + 1)) X.draft m.items).runIn X.world)
      ((do
        X.endRoot d e
        compose X.loader X.context (X.resumed d.parented) { e with attributes := .empty }).runIn v) := by
  have closing := taken_closing hx he hk
  cases hr : (X.endRoot d e).runIn v with
  | mk r z =>
    cases r with
    | error f =>
      have failed := closing.trans (Op.onError_runIn_of_error (Op.bind_runIn_of_error hr))
      obtain ⟨u, left⟩ := takeEvents_inclusion_of_error hi failed
      rw [left, Op.bind_runIn_of_error hr]
      exact .error
    | ok _ =>
      have ended := closing.trans (Op.onError_runIn_eq_ok.2 (Op.bind_runIn_of_ok hr))
      obtain ⟨inclusion, src, u, hinclusion, hu, left⟩ :=
        takeEvents_inclusion_of_ok hi hs.initializes S.fault ended rfl rfl hb
      have held : Element.heldValues { inclusion with value := e.value } =
          Element.heldValues { e with attributes := .empty } := by
        unfold Element.heldValues
        dsimp only
        rw [hinclusion.attributes]
      have composed := hl.compose_itself X.context (X.resumed d.parented)
        { inclusion with value := e.value } { e with attributes := .empty } rfl fun o => by rw [held]
      rw [left, Op.bind_runIn_of_ok hr]
      exact Alike.onError_left (composed.alike hu.symm)

/-- Where the root would be added in its own document, the including document goes on with what that
one has made. -/
theorem sameParts_resumed (hd : X.draft.stack ≠ []) {a : Draft} (hb : d.bindings = [])
    (parts : itself.SameParts .all (X.ground hd) (d.withStack []) a) :
    itself.SameParts .all (X.ground hd) (d.withStack []) (X.resumed d.parented) := by
  obtain ⟨-, hg⟩ | ⟨root, -⟩ := parts.root
  · exact absurd hg hd
  · have grown : X.draft.parented ⊆ d.parented := fun o ho =>
      (parts.parented (sameObject_itself.2 rfl)).2 (parts.kept ho)
    refine ⟨⟨[], rfl, .nil⟩, .inr ⟨root, rfl⟩, ⟨[], (List.append_nil _).symm, ?_⟩,
      sameMembers_itself _, grown⟩
    rw [show (d.withStack []).bindings = [] from hb]
    exact .nil

/-- In the place of an include the root is handed over before the rest of its end is done. -/
theorem alike_handing (hl : X.loader.IsDeterministic) (hd : X.draft.stack ≠ [])
    (hv : X.draft.AdoptsValues) (hs : X.Suits S)
    (hx : X.taken (S.lead ++ S.root.opening :: S.root.content) = (.ok d, v)) {a : Draft}
    {e e' : Element} (he : d.stack = [e]) (hp : d.IsPortable X.loader)
    (hlang : d.language = some X.loader.language) (same : itself.SameElement .all e e')
    (parts : itself.SameParts .all (X.ground hd) (d.withStack []) a)
    (resumed : itself.SameDraft .all X.loader (.bare []) (X.resumed d.parented) a)
    (hw : v.Agrees w) :
    Alike (fun _ => False) (itself.SameDraft .all X.loader (.bare []))
      ((do
        X.endRoot d e
        compose X.loader X.context (X.resumed d.parented) { e with attributes := .empty }).runIn v)
      ((do
        applyAttributes X.loader (a.held X.context e'.heldValues) e'
        composeFirst X.loader X.context a e').runIn w) := by
  have scope := sameScope_inner hd
  have grown : X.draft.parented ⊆ d.parented := fun o ho =>
    (parts.parented (sameObject_itself.2 rfl)).2 (parts.kept ho)
  have below := sameParts_resumed hd hp.bindings parts
  have language : d.languageIn X.loader = (X.resumed d.parented).languageIn X.loader := by
    rw [Draft.languageIn, hlang]
    exact hs.language.symm
  have ending : SameEnd X.loader X.inner X.context e := by
    have portable := hp.stack e (he ▸ List.mem_cons_self)
    exact ⟨fun a ha => .inr (portable.attached a ha),
      fun hk src hsrc => portable.script hk src hsrc _ _ rfl hs.located⟩
  have attributes : itself.SameOp Faults.all.toFailing Eq
      (applyAttributes X.loader ((d.withStack []).held X.inner e.heldValues) e)
      (applyAttributes X.loader (a.held X.context e'.heldValues) e') :=
    hl.applyAttributes (parts.held scope same.heldValues) same
  have refl := sameElement_itself .all e
  have early : itself.SameOp Faults.all.toFailing (itself.SameDraft .all X.loader (.bare []))
      (do
        applyAttachments X.loader X.inner ((d.withStack []).held X.inner e.heldValues)
          (d.languageIn X.loader) e
        compose X.loader X.context (X.resumed d.parented) { e with attributes := .empty })
      (composeLast X.loader X.context (X.resumed d.parented) e) := by
    unfold composeLast
    rw [language]
    refine .bind (hl.applyAttachments scope (below.held scope refl.heldValues) _ refl ending)
      fun _ => ?_
    exact hl.compose_itself _ _ _ _ rfl fun _ => Iff.rfl
  have late : itself.SameOp Faults.all.toFailing (itself.SameDraft .all X.loader (.bare []))
      (composeFirst X.loader X.context (X.resumed d.parented) e)
      (composeFirst X.loader X.context a e') :=
    hl.composeFirst resumed (sameContext_itself _ []).toSameScope same (.of_location rfl e)
  unfold endRoot
  rw [bind_assoc]
  refine Alike.bind (attributes.alike hw) fun {_ _ z z'} hz _ hzz' => ?_
  have adopts : (X.resumed d.parented).AdoptsValues :=
    fun x hx hk o ho => grown (hv x hx hk o ho)
  have swapped := commutes (c := X.context) (w := z) hl adopts fun o =>
    hs.separated d v e z o hx he hz
  refine ((early.alike (.refl z)).trans (swapped.trans (late.alike hzz'))).mono ?_
  rintro b b' ⟨b₁, hb, b₂, rfl, hb'⟩
  exact hb.chain hb'

/-- From the end of the root on, the including document does the same with the include and with the
root in its place. -/
theorem alike_closing (hl : X.loader.IsDeterministic) (hi : X.Includes m source)
    (hv : X.draft.AdoptsValues) (hs : X.Suits S) {a : Draft}
    (hx : X.taken (S.lead ++ S.root.opening :: S.root.content) = (.ok d, v))
    (h : itself.SameDraft .unlessTooDeep X.loader (X.ground hi.inside) d a) (hw : v.Agrees w) :
    Alike (fun _ => False) (itself.SameDraft .all X.loader (.bare []))
      ((takeEvents X.loader X.context (X.loader.deeper (X.depth + 1)) X.draft m.items).runIn X.world)
      ((a.closeElement X.loader X.context S.root.closing.location).runIn w) := by
  obtain ⟨_, _, -, content, -, -, inside⟩ := hs.taken_opening hx
  obtain ⟨e, he, hk⟩ := (inside.takeEvents S.root.balanced content).stack_eq
  obtain ⟨portable, language⟩ := hs.taken_content (List.append_nil _).symm hx
  obtain ⟨e', he', same, parts, resumed⟩ :=
    hs.resumed_of_sameDraft hi.inside h he portable.bindings language
  have same : itself.SameElement .all e e' := same.relocate fun _ => trivial
  have closing : (a.closeElement X.loader X.context S.root.closing.location).runIn w = (do
      applyAttributes X.loader ((a.withStack X.draft.stack).held X.context e'.heldValues) e'
      composeFirst X.loader X.context (a.withStack X.draft.stack) e').runIn w := by
    rw [Draft.closeElement_of_instance he' (same.kind ▸ hk), ← bind_assoc]
    refine Op.bind_pure_of_ok fun b u hb => if_neg ?_
    obtain ⟨_, _, -, hb⟩ := Op.bind_runIn_eq_ok.1 hb
    rw [composeFirst_shape hb, List.isEmpty_iff]
    exact hi.inside
  rw [closing]
  have inclusion := alike_inclusion hl hi hs hx he hk portable.bindings
  have handing := alike_handing hl hi.inside hv hs hx he portable language same parts resumed hw
  refine (inclusion.trans handing).mono ?_
  rintro b b' ⟨b₁, hb, hb'⟩
  exact hb.chain hb'

/-- An include does the same as the root in its place, unless documents are included too deep. -/
theorem alike_items (hl : X.loader.IsDeterministic) (hi : X.Includes m source)
    (hv : X.draft.AdoptsValues) (hs : X.Suits S) :
    Alike LoadError.IsTooDeep (itself.SameDraft .all X.loader (.bare []))
      ((takeEvents X.loader X.context (X.loader.deeper (X.depth + 1)) X.draft m.items).runIn X.world)
      ((takeEvents X.loader X.context (X.loader.deeper (X.depth + 1)) X.draft S.root.items).runIn
        X.world) := by
  have root : S.root.items = (S.root.opening :: S.root.content) ++ [S.root.closing] := rfl
  have inside := hs.sameRun_inside hl hi.inside
  rw [root, takeEvents_append]
  cases hx : X.taken (S.lead ++ S.root.opening :: S.root.content) with
  | mk r v =>
    cases hy : (takeEvents X.loader X.context (X.loader.deeper (X.depth + 1)) X.draft
      (S.root.opening :: S.root.content)).runIn X.world with
    | mk r' w =>
      rw [hx, hy] at inside
      cases r with
      | error f =>
        have items : (Xml.events source).items =
            (S.lead ++ S.root.opening :: S.root.content) ++ (S.root.closing :: S.trail) := by
          rw [S.items_eq, root]
          simp
        have failed : X.taken (Xml.events source).items = (.error f, v) := by
          unfold taken at hx ⊢
          rw [items, takeEvents_append, Op.bind_runIn_of_error hx]
        obtain ⟨u, left⟩ := takeEvents_inclusion_of_error hi failed
        rw [left]
        cases inside with
        | error =>
          rw [Op.bind_runIn_of_error hy]
          exact .error
        | lost h => exact .lost h
      | ok d =>
        cases inside with
        | ok h hw =>
          rw [Op.bind_runIn_of_ok hy, takeEvents_singleton]
          refine Alike.onError_right (Alike.weaken ?_)
          unfold Draft.step
          rw [S.root.closing_event]
          exact alike_closing hl hi hv hs hx h (sameWorld_itself.1 hw)

end Site

end Bxml
