import Bxml.Load.Closing
import Bxml.Proofs.Twins.Opening

/-!
# Text and ends of elements in twin documents

The operations of a load that take text and end elements are listed here in the order in which they
are defined: each does the same for documents that are the same.

`SameEnd` says when the end of an element means the same in both: attached values and sources of
scripts do.  `Uniform.compose` and `Uniform.closeElement` are what the loop over events needs.  The
outermost element above a ground is the exception: in one of the documents it is handed to an
element of the ground.
-/

namespace Bxml.Twins

/-- Whether the end of an element means the same in two documents: the attributes that are attached
to its value do, and so does the source of a script. -/
structure SameEnd (l : Loader) (c c' : DocumentContext) (e : Element) : Prop where
  attached : ∀ a ∈ e.attached, SameMeaning c c' a.value
  source : e.kind = .script → ∀ {src}, e.control.get? srcAttribute = some src →
    l.sourceUrl c src = l.sourceUrl c' src

theorem SameEnd.of_location {l : Loader} {c c' : DocumentContext} (h : c.location = c'.location)
    (e : Element) : SameEnd l c c' e :=
  ⟨fun _ _ => .inl h, fun _ _ _ => sourceUrl_congr h _⟩

variable {S : Twins} {F : Faults} {l : Loader} {G : Ground} {c c' : DocumentContext} {d d' : Draft}
  {e e' : Element} {at_ at' : Location} {h h' : Held}

/-! ## Composition -/

theorem adopt_same {v v' : Value} (hv : S.SameValue v v') (hl : F.Located at_ at')
    {parented parented' : List ObjectId} (hp : S.SameMembers parented parented') :
    S.SameOp F.toFailing (fun l l' => S.SameMembers l l' ∧ parented' ⊆ l')
      (adopt v at_ parented) (adopt v' at' parented') := by
  unfold adopt
  cases hv with
  | object ho =>
    refine .bind (.typeName ho) fun {name name'} hn => ?_
    obtain rfl := hn
    refine .bind (.require hl _ (by rw [hp.contains_eq ho])) fun _ => ?_
    exact .pure ⟨hp.cons ho, List.subset_cons_self _ _⟩
  | @scalar v hv => cases v <;> first | exact .pure ⟨hp, List.Subset.refl _⟩ | cases hv

theorem Uniform.addChild (hu : S.Uniform l) (held : S.SameHeld h h') {o p : ObjectId}
    (ho : S.SameObject o p) {v v' : Value} (hv : S.SameValue v v') (hl : F.Located at_ at') :
    S.SameOp F.toFailing Eq (addChild l h o v at_) (addChild l h' p v' at') := by
  unfold Bxml.addChild
  refine .bind (.object ho) fun {x x'} hx => ?_
  rw [hx.defaultProperty, hx.typeName]
  split
  · next property _ =>
    refine .bind (.mapSame (.ofExcept (hx.getProperty property)) _) fun {u u'} hc => ?_
    refine .bind (R := Option.Rel S.SameObject) (.read fun {w w'} hw => ?_) fun hlist => ?_
    · cases hc with
      | @object q q' hq =>
        have list := (hw.object hq).isSome_sequence?
        simp only [Value.object?, Option.filter_some, list]
        split
        · exact .some hq
        · exact .none
      | scalar hn =>
        rw [hn]
        exact .none
    · cases hlist with
      | none => exact .mapSame (hu.host.setProperty _ held ho hv) _
      | some hq => exact .change fun hw => hw.append hq hv
  · refine .ite (by rw [hx.isSome_sequence?]) (.change fun hw => hw.append ho hv) (.failAt hl _)

/-- Whether two receivers are the same. -/
inductive SameReceiver (S : Twins) : Receiver → Receiver → Prop
  | element : SameReceiver S .element .element
  | object {o p : ObjectId} : S.SameObject o p → SameReceiver S (.object o) (.object p)

theorem receiver?_same {s s' : List Element} (hs : S.SameStack F G s s') (hl : F.Located at_ at') :
    S.SameOp F.toFailing (Option.Rel S.SameReceiver) (.ofExcept (receiver? s at_))
      (.ofExcept (receiver? s' at')) := by
  unfold receiver?
  obtain ⟨rfl, rfl⟩ | ⟨p, p', r, r', rfl, rfl, hp, -⟩ := hs.nil_or_cons
  · exact .ofExcept (.ok .none)
  · obtain ⟨k, n, v, i, ct, as, at_, t, lc⟩ := p
    obtain ⟨k', n', v', i', ct', as', at_', t', lc'⟩ := p'
    obtain ⟨rfl, rfl, hv, rfl, rfl, ha, rfl, rfl, hl'⟩ := hp
    dsimp only at hv ⊢
    split
    · exact .ofExcept (.ok (.some .element))
    · split
      · exact .ofExcept (.ok .none)
      · cases hv with
        | object ho => exact .ofExcept (.ok (.some (.object ho)))
        | @scalar v hn =>
          cases v with
          | null => exact .ofExcept (.ok .none)
          | object o => cases hn
          | _ => exact .throw (hl _)

theorem SameDraft.setValue (hd : S.SameDraft F l G d d') {v v' : Value} (hv : S.SameValue v v') :
    S.SameDraft F l G (d.setValue v) (d'.setValue v') := by
  have stack := hd.stack
  unfold Draft.setValue
  obtain ⟨hs, hs'⟩ | ⟨p, p', r, r', hs, hs', hp, hr⟩ := hd.stack.nil_or_cons
  · rw [hs, hs']
    exact hd
  · rw [hs, hs']
    refine hd.withStack ?_
    rw [hs, hs'] at stack
    exact stack.replace (hp.withValue hv)

theorem Uniform.take (hu : S.Uniform l) (hd : S.SameDraft F l G d d') (held : S.SameHeld h h')
    {r r' : Receiver} (hr : S.SameReceiver r r') {v v' : Value} (hv : S.SameValue v v')
    (hl : F.Located at_ at') :
    S.SameOp F.toFailing (S.SameDraft F l G) (r.take l h d v at_) (r'.take l h' d' v' at') := by
  cases hr with
  | element => exact .pure (hd.setValue hv)
  | object ho => exact .bind (hu.addChild held ho hv hl) fun _ => .pure hd

/-- Of an element only its value counts, and what it holds. -/
theorem Uniform.compose (hu : S.Uniform l) (hd : S.SameDraft F l G d d')
    (hv : S.SameValue e.value e'.value)
    (held : S.SameHeld (d.held c e.heldValues) (d'.held c' e'.heldValues))
    (hl : F.Located e.location e'.location) :
    S.SameOp F.toFailing (S.SameDraft F l G) (compose l c d e) (compose l c' d' e') := by
  unfold Bxml.compose
  refine .bind (receiver?_same hd.stack hl) fun hr => ?_
  cases hr with
  | none => exact .pure hd
  | some hr =>
    refine .bind (adopt_same hv hl hd.parented) fun {p p'} hp => ?_
    have adopted : S.SameDraft F l G { d with parented := p } { d' with parented := p' } :=
      { hd with parented := hp.1, kept := List.Subset.trans hd.kept hp.2 }
    exact hu.take adopted held hr hv hl

theorem Uniform.applyAttributes (hu : S.Uniform l) (held : S.SameHeld h h')
    (he : S.SameElement F e e') :
    S.SameOp F.toFailing Eq (applyAttributes l h e) (applyAttributes l h' e') := by
  unfold Bxml.applyAttributes
  rw [he.name]
  refine .ite (by rw [he.attributes.isEmpty]) (.pure rfl) ?_
  refine .bind (.objectOr he.location _ he.value) fun ho => .forM he.attributes fun {p q} hp => ?_
  rw [hp.1]
  exact .mapSame (hu.host.setProperty _ held ho hp.2) _

theorem Uniform.addText (hu : S.Uniform l) (hd : S.SameDraft F l G d d')
    (hc : S.SameScope G c c') (text : String) (hl : F.Located at_ at') :
    S.SameOp F.toFailing (S.SameDraft F l G) (d.addText l c text at_)
      (d'.addText l c' text at') := by
  have stack := hd.stack
  unfold Draft.addText
  refine .ite Iff.rfl (.pure hd) ?_
  obtain ⟨hs, hs'⟩ | ⟨p, p', r, r', hs, hs', hp, hr⟩ := hd.stack.nil_or_cons
  · rw [hs, hs']
    exact .failAt hl _
  · rw [hs, hs'] at stack ⊢
    obtain ⟨k, n, v, i, ct, as, ad, t, lc⟩ := p
    obtain ⟨_, _, v', _, _, as', _, _, lc'⟩ := p'
    obtain ⟨rfl, rfl, hv, rfl, rfl, ha, rfl, rfl, hl'⟩ := hp
    dsimp only at hv ha hl' ⊢
    cases k with
    | instanceOf =>
      refine .bind (.objectOr hl _ hv) fun ho => .bind (.object ho) fun {x x'} hx => ?_
      rw [hx.typeName]
      refine .bind (.require hl _ (by rw [hx.defaultProperty, hx.isSome_sequence?])) fun _ => ?_
      exact .bind (hu.addChild (hd.held hc .nil) ho (.string text) hl) fun _ => .pure hd
    | writable | attached =>
      exact .pure (hd.withStack (stack.replace
        ⟨rfl, rfl, .string text, rfl, rfl, ha, rfl, rfl, hl'⟩))
    | script | listeners =>
      exact .pure (hd.withStack (stack.replace ⟨rfl, rfl, hv, rfl, rfl, ha, rfl, rfl, hl'⟩))
    | readOnly | inclusion | definition | reference => exact .failAt hl _

/-! ## Scripts -/

theorem Uniform.evaluate (hu : S.Uniform l) (hc : S.SameScope G c c') (held : S.SameHeld h h')
    (engine : EngineId) (source origin origin' : String) :
    S.SameOp F.toFailing Eq (evaluate l c h engine source origin)
      (evaluate l c' h' engine source origin') := by
  unfold Bxml.evaluate
  refine .bind (hu.host.eval engine source held hc.table).attempt fun hr => ?_
  cases hr with
  | ok _ => exact .pure rfl
  | error x => exact .bind (.log _ _ _ _) fun _ => .bind (.log _ _ _ _) fun _ => .pure rfl

theorem Uniform.evaluateText (hu : S.Uniform l) (hc : S.SameScope G c c')
    (held : S.SameHeld h h') (engine : EngineId) (source : Option String) :
    S.SameOp F.toFailing Eq (evaluateText l c h engine source)
      (evaluateText l c' h' engine source) := by
  unfold Bxml.evaluateText
  cases source with
  | none => exact .pure rfl
  | some source => exact hu.evaluate hc held engine source _ _

theorem Uniform.runSource (hu : S.Uniform l) (hc : S.SameScope G c c') (held : S.SameHeld h h')
    (hl : F.Located at_ at') {src : String} (hs : l.sourceUrl c src = l.sourceUrl c' src) :
    S.SameOp F.toFailing Eq (runSource l c h at_ src) (runSource l c' h' at' src) := by
  unfold Bxml.runSource
  refine .bind (.orFailSame hl _ _) fun {extension _} hx => ?_
  obtain rfl := hx
  refine .bind (.ofExceptSame _) fun {engine _} hx => ?_
  obtain rfl := hx
  rw [hs]
  refine .bind (.ofExceptSame _) fun {u _} hx => ?_
  obtain rfl := hx
  refine .bind (.ofExceptSame _) fun {source _} hx => ?_
  obtain rfl := hx
  exact .bind (hu.evaluate hc held engine source _ _) fun _ => .pure rfl

theorem Uniform.runText (hu : S.Uniform l) (hc : S.SameScope G c c') (held : S.SameHeld h h')
    (language source : String) :
    S.SameOp F.toFailing Eq (runText l c h language source) (runText l c' h' language source) := by
  unfold Bxml.runText
  refine .bind (.ofExceptSame _) fun {engine _} hx => ?_
  obtain rfl := hx
  exact .bind (hu.evaluate hc held engine source _ _) fun _ => .pure rfl

theorem Uniform.runScript (hu : S.Uniform l) (hc : S.SameScope G c c') (held : S.SameHeld h h')
    (language : String) (he : S.SameElement F e e')
    (hs : ∀ {src}, e.control.get? srcAttribute = some src →
      l.sourceUrl c src = l.sourceUrl c' src) :
    S.SameOp F.toFailing Eq (runScript l c h language e) (runScript l c' h' language e') := by
  unfold Bxml.runScript
  rw [← he.control, he.text]
  refine .bind (R := Eq) ?_ fun _ => ?_
  · cases hsrc : e.control.get? srcAttribute with
    | none => exact .pure rfl
    | some src => exact hu.runSource hc held he.location (hs hsrc)
  · cases e'.text with
    | none => exact .pure rfl
    | some source => exact hu.runText hc held language source

/-! ## Attached members and listeners -/

theorem Uniform.installEventScript (hc : S.SameScope G c c') (language : String)
    {o p : ObjectId} (ho : S.SameObject o p) (property : String) {list list' : ListenerList}
    (hx : S.SameListeners list list') (a : AttachedAttribute) (hl : F.Located at_ at') :
    S.SameOp F.toFailing Eq (installEventScript l c language o property list a at_)
      (installEventScript l c' language p property list' a at') := by
  unfold Bxml.installEventScript
  rw [hx.interface]
  refine .bind (.require hl _ rfl) fun _ => .bind (.ofExceptSame _) fun {engine _} he => ?_
  obtain rfl := he
  refine .bind (.log _ _ _ _) fun _ => .change fun hw => hw.addListener ho _ (.script ?_)
  exact ⟨rfl, rfl, rfl, rfl, .some hc.table⟩

theorem Uniform.applyAttachedAttribute (hu : S.Uniform l) (hc : S.SameScope G c c')
    (held : S.SameHeld h h') (language : String) {o p : ObjectId} (ho : S.SameObject o p)
    (hl : F.Located at_ at') {a : AttachedAttribute} (hm : SameMeaning c c' a.value) :
    S.SameOp F.toFailing Eq (applyAttachedAttribute l c h language o at_ a)
      (applyAttachedAttribute l c' h' language p at' a) := by
  unfold Bxml.applyAttachedAttribute
  refine .bind (.read fun hw => (hw.object ho).listeners? _) fun hx => ?_
  cases hx with
  | some hx => exact installEventScript hc language ho _ hx a hl
  | none =>
    refine .bind (hc.resolveAttribute hm hl) fun hv => ?_
    cases hv with
    | binding _ => exact .failAt hl _
    | resolved hv =>
      refine .bind (.mapSame (hu.attach _ _ (held.keepSame (.cons hv .nil)) ho hv) _) fun _ => ?_
      exact .bind (.typeName ho) fun _ => .log _ _ _ _

theorem Uniform.applyAttachedAttributes (hu : S.Uniform l) (hc : S.SameScope G c c')
    (held : S.SameHeld h h') (language : String) (he : S.SameElement F e e')
    (hs : SameEnd l c c' e) :
    S.SameOp F.toFailing Eq (applyAttachedAttributes l c h language e)
      (applyAttachedAttributes l c' h' language e') := by
  unfold Bxml.applyAttachedAttributes
  rw [← he.attached, he.name]
  refine .ite Iff.rfl (.pure rfl) ?_
  refine .bind (.objectOr he.location _ he.value) fun ho => ?_
  refine .forM (R := fun a b => a = b ∧ SameMeaning c c' a.value)
    (List.forall₂_same.2 fun a ha => ⟨rfl, hs.attached a ha⟩) ?_
  rintro a _ ⟨rfl, hm⟩
  exact hu.applyAttachedAttribute hc held language ho he.location hm

theorem owner?_same {s s' : List Element} (hs : S.SameStack F G s s') :
    Option.Rel S.SameObject (owner? s) (owner? s') := by
  obtain ⟨rfl, rfl⟩ | ⟨p, p', r, r', rfl, rfl, hp, -⟩ := hs.nil_or_cons
  · exact .none
  · exact hp.value.object?

theorem Uniform.applyAttachedElement (hu : S.Uniform l) (held : S.SameHeld h h')
    {s s' : List Element} (hs : S.SameStack F G s s') (he : S.SameElement F e e') :
    S.SameOp F.toFailing Eq (applyAttachedElement l h s e)
      (applyAttachedElement l h' s' e') := by
  unfold Bxml.applyAttachedElement
  rw [he.name]
  refine .bind (.orFail he.location _ (owner?_same hs)) fun ho => ?_
  refine .bind (.orFailSame he.location _ _) ?_
  rintro p _ rfl
  exact .mapSame (hu.attach _ _ held ho he.value) _

theorem Uniform.installAdapter (hu : S.Uniform l) (hc : S.SameScope G c c')
    (held : S.SameHeld h h') (language : String) {s s' : List Element}
    (hs : S.SameStack F G s s') (he : S.SameElement F e e') :
    S.SameOp F.toFailing Eq (installAdapter l c h language s e)
      (installAdapter l c' h' language s' e') := by
  unfold Bxml.installAdapter
  rw [he.name, he.text, he.attributes.keys]
  refine .bind (.orFail he.location _ hs.head?) fun hp => ?_
  refine .bind (.objectOr he.location _ hp.value) fun ho => .bind (.object ho) fun {x x'} hx => ?_
  rw [hx.typeName]
  refine .bind (.orFail he.location _ (hx.listeners? _)) fun {list list'} hlist => ?_
  rw [hlist.interface]
  refine .bind (.forM (R := Eq) (List.forall₂_same.2 fun _ _ => rfl) ?_) fun _ => ?_
  · rintro m _ rfl
    exact .require he.location _ rfl
  refine .bind (.ofExceptSame _) fun {engine _} hx => ?_
  obtain rfl := hx
  refine .bind (hu.evaluateText hc held engine _) fun hx => ?_
  refine .ite (by rw [hx]) ?_ (.pure rfl)
  refine .bind (R := Eq) (.read fun hw => ?_) fun {functions _} hx => ?_
  · exact Entries.Rel.map_eq he.attributes fun _ _ hv => hw.text hv
  obtain rfl := hx
  refine .bind (.typeName ho) fun _ => .bind (.log _ _ _ _) fun _ => ?_
  exact .change fun hw => hw.addListener ho _ (.adapter _)

/-! ## Ends -/

theorem Uniform.registerId (hu : S.Uniform l) (hc : S.SameScope G c c')
    (held : S.SameHeld h h') (he : S.SameElement F e e') :
    S.SameOp F.toFailing Eq (registerId l c h e) (registerId l c' h' e') := by
  unfold Bxml.registerId
  rw [he.id]
  cases e'.id with
  | none => exact .pure rfl
  | some id =>
    refine .bind (.mapSame (.update fun hw => hw.putId hc.table id he.value) _) fun _ => ?_
    obtain ⟨hv, hv'⟩ | ⟨o, p, hv, hv', ho⟩ := he.value.object?.none_or_some
    · rw [hv, hv']
      exact .pure rfl
    · rw [hv, hv']
      refine .bind (.read fun hw => (hw.object ho).idProperty) fun {property _} hx => ?_
      obtain rfl := hx
      cases property with
      | none => exact .pure rfl
      | some property => exact .mapSame (hu.host.setProperty _ held ho (.string id)) _

theorem Uniform.closeAs (hu : S.Uniform l) (hd : S.SameDraft F l G d d')
    (hc : S.SameScope G c c') (he : S.SameElement F e e') (hs : SameEnd l c c' e) :
    S.SameOp F.toFailing (S.SameDraft F l G) (closeAs l c d e) (closeAs l c' d' e') := by
  have held {d d' : Draft} (hd : S.SameDraft F l G d d') := hd.held hc he.heldValues
  unfold Bxml.closeAs
  rw [he.kind, he.name, hd.language]
  dsimp only
  have composed : S.SameOp F.toFailing (S.SameDraft F l G)
      (do
        Bxml.applyAttributes l (d.held c e.heldValues) e
        let d ← Bxml.compose l c d e
        Bxml.applyAttachedAttributes l c (d.held c e.heldValues) (d'.languageIn l) e
        return d)
      (do
        Bxml.applyAttributes l (d'.held c' e'.heldValues) e'
        let a ← Bxml.compose l c' d' e'
        Bxml.applyAttachedAttributes l c' (a.held c' e'.heldValues) (d'.languageIn l) e'
        return a) :=
    .bind (hu.applyAttributes (held hd) he) fun _ =>
      .bind (hu.compose hd he.value (hd.held hc he.heldValues) he.location) fun hd =>
        .bind (hu.applyAttachedAttributes hc (held hd) _ he hs) fun _ => .pure hd
  have kind := he.kind
  cases hk : e'.kind with
  | instanceOf | inclusion | reference => exact composed
  | readOnly => exact .bind (hu.applyAttributes (held hd) he) fun _ => .pure hd
  | writable =>
    refine .bind (.orFail he.location _ (owner?_same hd.stack)) fun ho => ?_
    exact .bind (.mapSame (hu.host.setProperty _ (held hd) ho he.value) _) fun _ => .pure hd
  | attached => exact .bind (hu.applyAttachedElement (held hd) hd.stack he) fun _ => .pure hd
  | listeners =>
    exact .bind (hu.installAdapter hc (held hd) _ hd.stack he) fun _ => .pure hd
  | script =>
    rw [hk] at kind
    exact .bind (hu.runScript hc (held hd) _ he (hs.source kind)) fun _ => .pure hd
  | definition => exact .pure hd

/-- An element ends in the same way in both documents, unless it is the last one above a ground. -/
theorem Uniform.closeElement (hu : S.Uniform l) (hd : S.SameDraft F l G d d')
    (hc : S.SameScope G c c') (hl : F.Located at_ at')
    (inside : d.stack.length ≠ 1 ∨ G.stack = [])
    (hm : ∀ e outer, d.stack = e :: outer → SameEnd l c c' e) :
    S.SameOp F.toFailing (S.SameDraft F l G) (d.closeElement l c at_)
      (d'.closeElement l c' at') := by
  unfold Draft.closeElement
  obtain ⟨hs, hs'⟩ | ⟨e, e', r, r', hs, hs', he, hr⟩ := hd.stack.nil_or_cons
  · rw [hs, hs']
    exact .failAt hl _
  · rw [hs, hs']
    have popped : S.SameStack F G r r' := by
      refine hr (inside.imp_left fun hi => ?_)
      rw [hs, List.length_cons] at hi
      exact List.ne_nil_of_length_pos (by omega)
    refine .bind (hu.closeAs (hd.withStack popped) hc he (hm e r hs)) fun {a a'} ha => ?_
    refine .bind (hu.registerId hc (ha.held hc he.heldValues) he) fun _ => ?_
    rw [← ha.stack.isEmpty]
    split
    · next empty =>
      have bare := ha.ground.resolve_left fun h => h (List.isEmpty_iff.1 empty)
      exact .pure (ha.withRoot he.value bare)
    · exact .pure ha

end Bxml.Twins
