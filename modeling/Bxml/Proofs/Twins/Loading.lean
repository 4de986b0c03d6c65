import Bxml.Proofs.Twins.Closing

/-!
# Twin loads

The events of a document do the same in twin worlds, and so does what is done once all of them are
taken.  By induction on how deep documents may be included, a whole load does the same.

* `SameEvent` says when an event means the same in two documents; in documents at the same place
  every event does (`SameEvent.of_location`).
* `Uniform.step` is one event and `Uniform.takeEvents` a run of them.
* `Uniform.loadNested` is the result.  The second load may be allowed to include documents deeper,
  if failures for the depth of the first say nothing.
-/

namespace Bxml.Twins

variable {S : Twins} {F : Faults} {l : Loader} {G : Ground} {c c' : DocumentContext} {d d' : Draft}
  {at_ at' : Location} {h h' : Held}

/-! ## Bindings -/

theorem SameOp.orUndefined {α β : Type} {R : α → β → Prop} (path : String) {a : Option α}
    {b : Option β} (h : Option.Rel R a b) :
    S.SameOp F.toFailing R (orUndefined path a) (orUndefined path b) := by
  cases h with
  | none => exact .throwSame _
  | some h => exact .pure h

theorem Uniform.bindId (hu : S.Uniform l) (hc : S.SameScope G c c') (held : S.SameHeld h h')
    {p p' : PendingBinding} (hp : S.SamePending F p p') (mapping : Option Mapping)
    (segments : List String) :
    S.SameOp F.toFailing Eq (bindId l c h p mapping segments)
      (bindId l c' h' p' mapping segments) := by
  unfold Bxml.bindId
  rw [hp.targetKey]
  refine .bind (.mapSame (.check fun hw => hw.resolve hc.table _) _) fun hv => ?_
  refine .bind (.mapSame (hu.host.mapped _ held hv) _) fun hv => ?_
  exact .mapSame (hu.host.setProperty _ held hp.target hv) _

theorem SameScope.bindingSource (hc : S.SameScope G c c') (objectPath : List String)
    (key path : String) :
    S.SameOp F.toFailing S.SameObject (bindingSource c objectPath key path)
      (bindingSource c' objectPath key path) := by
  unfold Bxml.bindingSource
  refine .bind (.mapSame (.check fun hw => hw.resolve hc.table _) _) fun hv => ?_
  refine .bind (.orUndefined _ hv.object?) fun ho => ?_
  refine .bind (.read fun hw => (hw.object ho).hasProperty key) fun hr => .orUndefined path ?_
  obtain rfl := hr
  split
  · exact .some ho
  · exact .none

theorem Uniform.connect (hu : S.Uniform l) (held : S.SameHeld h h') {b b' : Binding}
    (hb : S.SameBinding b b') (path : String) :
    S.SameOp F.toFailing Eq (connect l h b path) (connect l h' b' path) := by
  unfold Bxml.connect
  rw [hb.sourceKey]
  refine .bind (.mapSame (hu.host.copyAlong hu.host.setProperty held hb) _) fun _ => ?_
  refine .bind (.typeName hb.source) fun _ => ?_
  refine .bind (.read fun hw => (hw.object hb.source).publishes) fun hp => ?_
  refine .ite (by rw [hp]) ?_ (.log _ _ _ _)
  refine .bind (.typeName hb.target) fun _ => .bind (.log _ _ _ _) fun _ => ?_
  exact .change fun hw => hw.subscribe hb.source _ (.binding hb)

theorem Uniform.bindProperty (hu : S.Uniform l) (hc : S.SameScope G c c')
    (held : S.SameHeld h h') {p p' : PendingBinding} (hp : S.SamePending F p p')
    (mapping : Option Mapping) (objectPath : List String) (key path : String) :
    S.SameOp F.toFailing Eq (bindProperty l c h p mapping objectPath key path)
      (bindProperty l c' h' p' mapping objectPath key path) := by
  unfold Bxml.bindProperty
  refine .bind (hc.bindingSource _ _ _) fun {o o'} ho => ?_
  have connected : S.SameBinding ⟨o, key, p.target, p.targetKey, mapping⟩
      ⟨o', key, p'.target, p'.targetKey, mapping⟩ := ⟨ho, rfl, hp.target, hp.targetKey, rfl⟩
  exact hu.connect (held.keepSame (.cons (.object ho) .nil)) connected path

theorem mappingNamed_same (language : String) (function : Option String) :
    S.SameOp F.toFailing Eq (mappingNamed l language function)
      (mappingNamed l language function) := by
  unfold mappingNamed
  cases function with
  | none => exact .pure rfl
  | some f =>
    refine .bind (.ofExceptSame _) fun {engine _} he => .pure ?_
    rw [he]

theorem Uniform.bind (hu : S.Uniform l) (hc : S.SameScope G c c') (held : S.SameHeld h h')
    (language : String) {p p' : PendingBinding} (hp : S.SamePending F p p') :
    S.SameOp F.toFailing Eq (bind l c h language p) (bind l c' h' language p') := by
  unfold Bxml.bind
  rw [hp.expression]
  dsimp only
  have held := held.keepSame (.cons (.object hp.target) .nil)
  refine .bind (.require hp.location _ rfl) fun _ => ?_
  refine .bind (mappingNamed_same _ _) fun {mapping _} hm => ?_
  obtain rfl := hm
  cases (pathSegments (splitMapping p'.expression).2).getLast? with
  | none => exact .pure rfl
  | some key =>
    exact .ite Iff.rfl (hu.bindId hc held hp _ _) (hu.bindProperty hc held hp _ _ _ _)

theorem Uniform.applyBindings (hu : S.Uniform l) (hc : S.SameScope G c c')
    (held : S.SameHeld h h') (language : String) {ps ps' : List PendingBinding}
    (hp : List.Forall₂ (S.SamePending F) ps ps') :
    S.SameOp F.toFailing Eq (applyBindings l c h language ps)
      (applyBindings l c' h' language ps') := by
  induction hp with
  | nil => exact .pure rfl
  | @cons p p' r r' hp hr ih =>
    have targets : List.Forall₂ S.SameValue (r.map fun q => .object q.target)
        (r'.map fun q => .object q.target) := by
      rw [List.forall₂_map_left_iff, List.forall₂_map_right_iff]
      exact hr.imp fun _ _ hq => .object hq.target
    exact .bind (hu.bind hc (held.keepSame targets) language hp) fun _ => ih

/-! ## Events -/

/-- Whether an event means the same in two documents. -/
def SameEvent (l : Loader) (c c' : DocumentContext) (d : Draft) (x : Xml.Located) (w : World) :
    Prop :=
  match x.event with
  | .start tag => SameStart l c c' d tag x.location w
  | .close => ∀ e outer, d.stack = e :: outer → SameEnd l c c' e
  | .instruction _ _ => True
  | .characters _ => True

/-- Events mean the same in documents at the same place. -/
theorem SameEvent.of_location (h : c.location = c'.location) (x : Xml.Located) (w : World) :
    SameEvent l c c' d x w := by
  unfold SameEvent
  split
  · exact .of_location h
  · exact fun e _ _ => .of_location h e
  · trivial
  · trivial

theorem SameDraft.addInstruction (hd : S.SameDraft F l G d d') (target data : String)
    (hl : F.Located at_ at') :
    S.SameOp F.toFailing (S.SameDraft F l G) (d.addInstruction target data at_)
      (d'.addInstruction target data at') := by
  unfold Draft.addInstruction
  refine .ite Iff.rfl (.bind (.log _ _ _ _) fun _ => .pure hd) ?_
  have set : S.SameDraft F l G { d with language := some data }
      { d' with language := some data } :=
    { hd with language := rfl, settled := rfl }
  rw [hd.settled]
  split
  · exact .bind (.failAt (R := Eq) hl _) fun _ => .pure set
  · exact .pure set

/-- An event does the same in both documents, unless it ends the last element above a ground. -/
theorem Uniform.step (hu : S.Uniform l) (hd : S.SameDraft F l G d d')
    (hc : S.SameScope G c c') {n n' : Option NestedLoad} (hn : S.SameDepth F l n n')
    {x x' : Xml.Located} (he : x.event = x'.event) (hl : F.Located x.location x'.location)
    (inside : x.event = .close → d.stack.length ≠ 1 ∨ G.stack = []) {w w' : World}
    (hw : S.SameWorld w w') (hm : SameEvent l c c' d x w) :
    S.SameRun F.toFailing (S.SameDraft F l G) ((d.step l c n x).runIn w)
      ((d'.step l c' n' x').runIn w') := by
  unfold Draft.step
  unfold SameEvent at hm
  rw [← he]
  cases hx : x.event with
  | instruction target data => exact hd.addInstruction target data hl _ _ hw
  | start tag =>
    rw [hx] at hm
    exact hu.openElement hd hc hn hl hw hm
  | close =>
    rw [hx] at hm
    exact hu.closeElement hd hc hl (inside hx) hm _ _ hw
  | characters text => exact hu.addText hd hc text hl _ _ hw

theorem reportFailure_same {w w' : World} (hw : S.SameWorld w w') (e e' : LoadError) :
    S.SameWorld (reportFailure c at_ e w) (reportFailure c' at' e' w') :=
  (hw.log _ _ _ _).log _ _ _ _

/-- Whether the same is in two documents, at places that make no difference. -/
def SameItem (F : Faults) (x x' : Xml.Located) : Prop :=
  x.event = x'.event ∧ F.Located x.location x'.location

theorem Uniform.takeEvents (hu : S.Uniform l) (hd : S.SameDraft F l G d d')
    (hc : S.SameContext G c c') {n n' : Option NestedLoad} (hn : S.SameDepth F l n n')
    (free : G.stack = []) {items items' : List Xml.Located}
    (hi : List.Forall₂ (SameItem F) items items') :
    S.SameOp F.toFailing (S.SameDraft F l G) (takeEvents l c n d items)
      (takeEvents l c' n' d' items') := by
  refine .foldlM hi hd ?_
  rintro d d' x x' hd ⟨he, hl⟩
  refine fun w w' hw => SameRun.onError ?_ fun hw => reportFailure_same hw _ _
  exact hu.step hd hc.toSameScope hn he hl (fun _ => .inr free) hw (.of_location hc.location x w)

/-! ## Ends of documents -/

/-- Whether the reading of two documents ends in the same way. -/
def SameFault (F : Faults) (es es' : Xml.Events) : Prop :=
  Option.Rel (fun f f' => F.same (.xml f es.stop) (.xml f' es'.stop)) es.fault es'.fault

theorem SameFault.refl (es : Xml.Events) : SameFault F es es := by
  unfold SameFault
  cases es.fault with
  | none => exact .none
  | some f => exact .some (F.refl _)

theorem SameFault.reportFault {es es' : Xml.Events} (hf : SameFault F es es') :
    S.SameOp F.toFailing Eq (reportFault c es) (reportFault c' es') := by
  unfold Bxml.reportFault
  obtain ⟨he, he'⟩ | ⟨f, f', he, he', same⟩ := hf.none_or_some
  · rw [he, he']
    exact .pure rfl
  · rw [he, he']
    exact SameOp.onError (.throw same) fun hw => reportFailure_same hw _ _

theorem SameDraft.finish {parented : List ObjectId} (hd : S.SameDraft F l (.bare parented) d d') :
    S.SameOp F.toFailing S.SameValue d.finish d'.finish := by
  have root : Option.Rel S.SameValue d.root d'.root := by
    obtain ⟨root, -⟩ | ⟨hr, hr'⟩ := hd.root
    · exact root
    · rw [hr, hr']
      exact .none
  unfold Draft.finish
  obtain ⟨hs, hs'⟩ | ⟨e, e', r, r', hs, hs', he, -⟩ := hd.stack.nil_or_cons
  · rw [hs, hs']
    obtain ⟨hr, hr'⟩ | ⟨v, v', hr, hr', hv⟩ := root.none_or_some
    · rw [hr, hr']
      exact .failAt (F.located_refl _) _
    · rw [hr, hr']
      exact .pure hv
  · rw [hs, hs']
    dsimp only
    rw [he.name]
    exact .failAt he.location _

theorem Uniform.completeRoot (hu : S.Uniform l) (hc : S.SameContext G c c')
    (held : S.SameHeld h h') {v v' : Value} (hv : S.SameValue v v') :
    S.SameOp F.toFailing Eq (completeRoot l c h v) (completeRoot l c' h' v') := by
  unfold Bxml.completeRoot
  obtain ⟨hr, hr'⟩ | ⟨o, p, hr, hr', ho⟩ := hv.object?.none_or_some
  · rw [hr, hr']
    exact .pure rfl
  · rw [hr, hr', hc.location]
    dsimp only
    refine .bind (R := Eq) (.read fun {w w'} hw => ?_) fun {hook _} hx => ?_
    · obtain ⟨hd, hd'⟩ | ⟨x, x', hd, hd', same⟩ := (hw.object ho).dictionary?.none_or_some
      · rw [hd, hd']
      · rw [hd, hd']
        exact same.hook
    obtain rfl := hx
    cases hook with
    | none => exact .pure rfl
    | some hook => exact .mapSame (hu.host.hook hook _ held ho hc.table) _

/-- What both loads hold once all events are taken. -/
theorem SameDraft.heldAtEnd {parented : List ObjectId}
    (hd : S.SameDraft F l (.bare parented) d d') (hc : S.SameScope (.bare parented) c c')
    {v v' : Value} (hv : S.SameValue v v') :
    S.SameHeld ((c.held.keep (v :: d.parented.map .object)).keepTable c.table)
      ((c'.held.keep (v' :: d'.parented.map .object)).keepTable c'.table) := by
  refine @SameHeld.keep S _ _ hc.held (v :: d.parented.map .object)
    (v' :: d'.parented.map .object) fun ho => ?_
  rw [List.mem_cons, List.mem_cons, hd.parented.values ho]
  have root := mem_iff (.cons hv .nil) ho
  rw [List.mem_singleton, List.mem_singleton] at root
  exact or_congr root Iff.rfl

theorem Uniform.complete (hu : S.Uniform l) {parented : List ObjectId}
    (hd : S.SameDraft F l (.bare parented) d d') (hc : S.SameContext (.bare parented) c c')
    {es es' : Xml.Events} (hf : SameFault F es es') :
    S.SameOp F.toFailing (S.SameLoaded parented) (d.complete l c es) (d'.complete l c' es') := by
  unfold Draft.complete
  refine .bind hf.reportFault fun _ => .bind hd.finish fun {root root'} hr => ?_
  have held := hd.heldAtEnd hc.toSameScope hr
  obtain ⟨pending, hb, same⟩ := hd.bindings
  obtain rfl : d'.bindings = pending := hb
  rw [hd.language]
  refine .bind (.onError (hu.applyBindings hc.toSameScope held _ same) fun hw => hw.log _ _ _ _) fun _ => ?_
  refine .bind (hu.completeRoot hc held hr) fun _ => .bind (R := fun _ _ => True)
    (.read fun _ => trivial) fun _ => .bind (.log _ _ _ _) fun _ => ?_
  exact .pure ⟨hr, hc.table, hc.location, hd.parented, hd.kept⟩

/-! ## Loads -/

theorem Uniform.loadWith (hu : S.Uniform l) {n n' : Option NestedLoad}
    (hn : S.SameDepth F l n n') : S.SameNested F (loadWith l n) (loadWith l n') := by
  intro c c' parented parented' source hc hp
  unfold Bxml.loadWith
  have same : List.Forall₂ (SameItem F) (Xml.events source).items (Xml.events source).items :=
    List.forall₂_same.2 fun x _ => ⟨rfl, F.located_refl _⟩
  refine .bind (.change fun hw => hw.log _ _ _ _) fun _ => ?_
  exact .bind (hu.takeEvents (.start hp) hc hn rfl same) fun hd => hu.complete hd hc (.refl _)

/-- A load does the same in twin worlds. If it says nothing that documents are included too deep,
the second one may include documents deeper. -/
theorem Uniform.loadNested (hu : S.Uniform l) {n m : Nat} (hnm : n ≤ m)
    (hf : n = m ∨ ∀ src at_, F.lost (.structural (.tooDeep src l.maxDepth) at_)) :
    S.SameNested F (loadNested l n) (loadNested l m) := by
  induction n generalizing m with
  | zero =>
    cases m with
    | zero => exact hu.loadWith .none
    | succ m => exact hu.loadWith (.lost (hf.resolve_left nofun))
  | succ n ih =>
    cases m with
    | zero => exact absurd hnm (Nat.not_succ_le_zero n)
    | succ m =>
      exact hu.loadWith (.some (ih (Nat.le_of_succ_le_succ hnm) (hf.imp_left Nat.succ.inj)))

end Bxml.Twins
