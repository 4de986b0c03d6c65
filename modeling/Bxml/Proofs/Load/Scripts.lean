import Bxml.Proofs.Load.Handing
import Bxml.Proofs.Load.Internal
import Bxml.Proofs.Load.Nesting
import Bxml.Proofs.World.Agreeing

/-!
# Scripts that fail

Whether the script of a script element gives a value or fails is reported, and nothing else depends
on it.  Two loaders whose engines do the same to objects and ids, and of which it does not matter who
calls a function, load every document alike, as long as they agree on which listeners have scripts
that fail.

* `Loader.SameEngines` says what two loaders have in common: evaluations leave worlds that agree,
  and functions and all other collaborators do the same.  `Loader.ListensAlike` is the condition on
  listener elements, whose scripts do have to succeed.
* `evaluate_bind` is where results are forgotten; everything else is one lemma for each operation,
  in the order of the definitions, by `Op.Agrees` of `World/Agreeing.lean`.
* `loads_agree_of_sameEngines` is the result for whole loads, by induction on the depth.
-/

namespace Bxml

/-- A loader with other engines: another host and the factory that goes with it. -/
def Loader.withEngines (l : Loader) (host : Host) (factory : TypeFactory) : Loader :=
  { l with host := host, factory := factory }

/-- Whether other engines do the same, but for the results of evaluating script text. -/
structure Loader.SameEngines (l : Loader) (host : Host) (factory : TypeFactory) : Prop where
  nesting : l.host.nesting = host.nesting
  invoke (e : EngineId) (name : String) (h : Held) (args : List Value) :
    ((l.host.engine e).invoke name h args).Agrees ((host.engine e).invoke name h args)
  hook (k : HookId) (h : Held) (o : ObjectId) (t : TableId) (location : Option Url) :
    (l.host.hook k h o t location).Agrees (host.hook k h o t location)
  construct (typeName : String) :
    (l.factory.construct typeName).Agrees (factory.construct typeName)
  attach (h : Held) (owner property : String) (o : ObjectId) (v : Value) :
    (l.factory.attach h owner property o v).Agrees (factory.attach h owner property o v)
  /-- An evaluation may fail on one side only, but it does the same to objects and ids. -/
  eval (e : EngineId) (h : Held) (source : String) (t : TableId) :
    ((l.host.engine e).eval h source t).SameEffect ((host.engine e).eval h source t)

/-- Whether the script of a listener element fails with both engines or with none of them. -/
def Loader.ListensAlike (l : Loader) (host : Host) (c : DocumentContext) (d : Draft) (e : Element)
    (w : World) : Prop :=
  ∀ source engine, e.text = some source → l.engineNamed (d.languageIn l) = .ok engine →
    ∀ w', w.Agrees w' →
      (((l.host.engine engine).eval (d.held c e.heldValues) source c.table).runIn w).1.isOk =
        (((host.engine engine).eval (d.held c e.heldValues) source c.table).runIn w').1.isOk

/-- Whether the engines agree on the listener element that ends at a moment, if one does. -/
def Moment.ListensAlike (l : Loader) (host : Host) (m : Moment) : Prop :=
  m.event.event = .close → ∀ e outer, m.draft.stack = e :: outer → e.kind = .listeners →
    l.ListensAlike host m.context { m.draft with stack := outer } e m.world

/-- Requirements leave the world alone. -/
theorem forM_require_world {α : Type} {at_ : Location} {f : α → StructureFault} {p : α → Bool}
    {as : List α} {u : Unit} {w v : World}
    (h : (as.forM fun a => require at_ (f a) (p a)).runIn w = (.ok u, v)) : v = w := by
  induction as generalizing w with
  | nil =>
    cases h
    rfl
  | cons a r ih =>
    obtain ⟨_, z, hr, hv⟩ := Op.bind_runIn_eq_ok.1 h
    obtain rfl := (require_eq_ok.1 hr).2
    exact ih hv

namespace Loader.SameEngines

variable {l : Loader} {host : Host} {factory : TypeFactory} (hl : l.SameEngines host factory)

/-! ## Writes -/

section

variable {write write' : Write} (hw : ∀ h o name v, (write h o name v).Agrees (write' h o name v))

include hl

theorem mapped (h : Held) (m : Option Mapping) (v : Value) :
    (l.host.mapped h m v).Agrees (host.mapped h m v) := by
  cases m with
  | none => exact .pure v
  | some m => exact .mapError (hl.invoke _ _ _ _) _

include hw

theorem copyAlong (h : Held) (b : Binding) :
    (l.host.copyAlong write h b).Agrees (host.copyAlong write' h b) := by
  have alive (w : World) (trace : Array Event) (exhausted : Bool) :
      ((w.retraced trace exhausted).isAlive h b.source &&
          (w.retraced trace exhausted).isAlive h b.target) =
        (w.isAlive h b.source && w.isAlive h b.target) := by
    have same : w.Agrees (w.retraced trace exhausted) := ⟨rfl, rfl⟩
    rw [same.isAlive_eq, same.isAlive_eq]
  unfold Host.copyAlong
  refine .bind (.read alive) fun alive => .ite ?_ (.pure ())
  refine .bind (.mapError (.check fun _ _ _ => rfl) _) fun v => .bind (hl.mapped _ _ v) fun v => ?_
  exact .bind (.read fun _ _ _ => rfl) fun holds => .ite (.pure ()) (.mapError (hw _ _ _ _) _)

theorem publish (h : Held) (o : ObjectId) (name : String) (previous : Value) :
    (l.host.publish write h o name previous).Agrees (host.publish write' h o name previous) := by
  refine .bind (.read fun _ _ _ => rfl) fun subscribers => .forM (fun s => ?_) _
  cases s with
  | watcher label => exact .emit _ _
  | binding b =>
    refine .bind (.attempt (hl.copyAlong hw h b)) fun r => ?_
    cases r with
    | ok _ => exact .pure ()
    | error e => exact .log _ _ _ _

end

theorem writeThen {publish publish' : Held → ObjectId → String → Value → Op PropertyError Unit}
    (hp : ∀ h o name v, (publish h o name v).Agrees (publish' h o name v)) (h : Held) (o : ObjectId)
    (name : String) (v : Value) :
    (Host.writeThen publish h o name v).Agrees (Host.writeThen publish' h o name v) := by
  intro w w' hw
  unfold Op.runIn Host.writeThen
  obtain ⟨e, hu, hu'⟩ | ⟨u, u', previous, hu, hu', world⟩ := hw.assign o name v
  · rw [hu, hu']
    exact ⟨rfl, hw⟩
  · rw [hu, hu']
    cases previous with
    | none => exact ⟨rfl, world⟩
    | some previous => exact hp _ _ _ _ _ _ world

theorem giveUp (h : Held) (o : ObjectId) (name : String) (previous : Value) :
    (Host.giveUp h o name previous).Agrees (Host.giveUp h o name previous) := by
  refine .change fun {w w'} hw => ?_
  obtain ⟨trace, exhausted, rfl⟩ := hw.exists_retraced
  have subscribers : ((w.retraced trace exhausted).object o).subscribersOf name =
    (w.object o).subscribersOf name := rfl
  rw [subscribers]
  split
  · exact hw
  · exact ⟨rfl, rfl⟩

include hl

theorem write (n : Nat) (h : Held) (o : ObjectId) (name : String) (v : Value) :
    (l.host.write n h o name v).Agrees (host.write n h o name v) := by
  induction n generalizing h o name v with
  | zero => exact writeThen giveUp h o name v
  | succ n ih => exact writeThen (hl.publish ih) h o name v

theorem setProperty (h : Held) (o : ObjectId) (name : String) (v : Value) :
    (l.host.setProperty h o name v).Agrees (host.setProperty h o name v) := by
  unfold Host.setProperty
  rw [← hl.nesting]
  exact hl.write _ h o name v

/-! ## Elements -/

theorem addChild (h : Held) (o : ObjectId) (v : Value) (at_ : Location) :
    (addChild l h o v at_).Agrees (addChild (l.withEngines host factory) h o v at_) := by
  unfold Bxml.addChild
  refine .bind (.object o) fun x => ?_
  split
  · refine .bind (.mapError (.ofExcept _) _) fun current => .bind (.read fun _ _ _ => rfl) fun list => ?_
    cases list with
    | some p => exact .change fun hw => hw.modify p _
    | none => exact .mapError (hl.setProperty _ _ _ _) _
  · exact .ite (.change fun hw => hw.modify o _) (agrees_failAt _ _)

theorem compose (c : DocumentContext) (d : Draft) (e : Element) :
    (compose l c d e).Agrees (compose (l.withEngines host factory) c d e) := by
  unfold Bxml.compose
  refine .bind (.ofExcept _) fun r => ?_
  cases r with
  | none => exact .pure _
  | some r =>
    refine .bind (agrees_adopt _ _ _) fun parented => ?_
    cases r with
    | element => exact .pure _
    | object o => exact .bind (hl.addChild _ _ _ _) fun _ => .pure _

theorem applyAttributes (h : Held) (e : Element) :
    (applyAttributes l h e).Agrees (applyAttributes (l.withEngines host factory) h e) :=
  .ite (.pure _) (.bind (agrees_objectOr _ _ _) fun _ =>
    .forM (fun _ => .mapError (hl.setProperty _ _ _ _) _) _)

theorem addText (c : DocumentContext) (d : Draft) (text : String) (at_ : Location) :
    (d.addText l c text at_).Agrees (d.addText (l.withEngines host factory) c text at_) := by
  unfold Draft.addText
  refine .ite (.pure _) ?_
  split
  · exact agrees_failAt _ _
  · split
    · refine .bind (agrees_objectOr _ _ _) fun o => .bind (.object o) fun x => ?_
      exact .bind (agrees_require _ _ _) fun _ => .bind (hl.addChild _ _ _ _) fun _ => .pure _
    · exact .pure _
    · exact .pure _
    · exact .pure _
    · exact .pure _
    · exact agrees_failAt _ _

/-! ### Scripts -/

/-- An evaluation tells whether it failed, and the worlds after it agree in any case. -/
theorem evaluate (c : DocumentContext) (h : Held) (engine : EngineId) (source origin : String)
    {w w' : World} (hw : w.Agrees w') : ∃ v v', v.Agrees v' ∧
      (evaluate l c h engine source origin).runIn w =
        (.ok (((l.host.engine engine).eval h source c.table).runIn w).1.isOk, v) ∧
      (evaluate (l.withEngines host factory) c h engine source origin).runIn w' =
        (.ok (((host.engine engine).eval h source c.table).runIn w').1.isOk, v') := by
  have same := hl.eval engine h source c.table w w' hw
  have evaluated (l : Loader) (w : World) : ∃ v,
      v.Agrees (((l.host.engine engine).eval h source c.table).runIn w).2 ∧
        (Bxml.evaluate l c h engine source origin).runIn w =
          (.ok (((l.host.engine engine).eval h source c.table).runIn w).1.isOk, v) := by
    unfold Bxml.evaluate
    rw [Op.bind_runIn, Op.attempt_runIn]
    rcases ((l.host.engine engine).eval h source c.table).runIn w with ⟨x | v, u⟩
    · exact ⟨(u.log _ _).log _ _, ⟨rfl, rfl⟩, rfl⟩
    · exact ⟨u, .refl u, rfl⟩
  obtain ⟨v, hv, run⟩ := evaluated l w
  obtain ⟨v', hv', run'⟩ := evaluated (l.withEngines host factory) w'
  exact ⟨v, v', (hv.trans same).trans hv'.symm, run, run'⟩

/-- Whether an evaluation failed does not matter if nobody asks. -/
theorem evaluate_bind {β : Type} (c : DocumentContext) (h : Held) (engine : EngineId)
    (source origin : String) {x y : Op LoadError β} (hx : x.Agrees y) :
    (Bxml.evaluate l c h engine source origin >>= fun _ => x).Agrees
      (Bxml.evaluate (l.withEngines host factory) c h engine source origin >>= fun _ => y) := by
  intro w w' hw
  obtain ⟨v, v', hv, run, run'⟩ := hl.evaluate c h engine source origin hw
  rw [Op.bind_runIn_of_ok run, Op.bind_runIn_of_ok run']
  exact hx v v' hv

theorem runScript (c : DocumentContext) (h : Held) (language : String) (e : Element) :
    (runScript l c h language e).Agrees (runScript (l.withEngines host factory) c h language e) := by
  refine .bind (.optionForM (fun src => ?_) _) fun _ => .optionForM (fun source => ?_) _
  · refine .bind (agrees_orFail _ _ _) fun extension => .bind (.ofExcept _) fun engine => ?_
    refine .bind (.ofExcept _) fun u => .bind (.ofExcept _) fun source => ?_
    exact hl.evaluate_bind c h engine source u.text (.pure ())
  · exact .bind (.ofExcept _) fun engine => hl.evaluate_bind c h engine source c.name (.pure ())

theorem evaluateText (c : DocumentContext) (h : Held) (engine : EngineId) (text : Option String)
    {w : World} (same : ∀ source, text = some source → ∀ w', w.Agrees w' →
      (((l.host.engine engine).eval h source c.table).runIn w).1.isOk =
        (((host.engine engine).eval h source c.table).runIn w').1.isOk) :
    (evaluateText l c h engine text).AgreesAt
      (evaluateText (l.withEngines host factory) c h engine text) w := by
  intro w' hw
  cases text with
  | none => exact ⟨rfl, hw⟩
  | some source =>
    obtain ⟨v, v', hv, run, run'⟩ := hl.evaluate c h engine source c.name hw
    unfold Bxml.evaluateText
    rw [run, run', same source rfl w' hw]
    exact ⟨rfl, hv⟩

/-! ### Attached members -/

theorem applyAttachedAttributes (c : DocumentContext) (h : Held) (language : String) (e : Element) :
    (applyAttachedAttributes l c h language e).Agrees
      (applyAttachedAttributes (l.withEngines host factory) c h language e) := by
  refine .ite (.pure _) (.bind (agrees_objectOr _ _ _) fun o => .forM (fun a => ?_) _)
  refine .bind (.read fun _ _ _ => rfl) fun list => ?_
  cases list with
  | some list =>
    refine .bind (agrees_require _ _ _) fun _ => .bind (.ofExcept _) fun engine => ?_
    exact .afterLog _ _ _ _ (.change fun hw => hw.modify o _)
  | none =>
    refine .bind (c.agrees_resolveAttribute _ _) fun v => ?_
    cases v with
    | binding _ => exact agrees_failAt _ _
    | resolved v =>
      refine .bind (.mapError (hl.attach _ _ _ _ _) _) fun _ => ?_
      exact .bind (.typeName o) fun _ => .log _ _ _ _

theorem applyAttachedElement (h : Held) (stack : List Element) (e : Element) :
    (applyAttachedElement l h stack e).Agrees
      (applyAttachedElement (l.withEngines host factory) h stack e) :=
  .bind (agrees_orFail _ _ _) fun _ => .bind (agrees_orFail _ _ _) fun _ =>
    .mapError (hl.attach _ _ _ _ _) _

theorem registerId (c : DocumentContext) (h : Held) (e : Element) :
    (registerId l c h e).Agrees (registerId (l.withEngines host factory) c h e) := by
  unfold Bxml.registerId
  split
  · next id _ =>
    refine .bind (.mapError (.update fun hw => hw.putId c.table id e.value) _) fun _ => ?_
    split
    · next o _ =>
      refine .bind (.read fun _ _ _ => rfl) fun property => ?_
      split
      · exact .mapError (hl.setProperty _ _ _ _) _
      · exact .pure _
    · exact .pure _
  · exact .pure _

theorem installAdapter (c : DocumentContext) (d : Draft) (e : Element) {w : World}
    (same : l.ListensAlike host c d e w) :
    (installAdapter l c (d.held c e.heldValues) (d.languageIn l) d.stack e).AgreesAt
      (installAdapter (l.withEngines host factory) c (d.held c e.heldValues) (d.languageIn l) d.stack
        e) w := by
  unfold Bxml.installAdapter
  -- Up to the evaluation the world is only looked at.
  refine .bind (agrees_orFail _ _ _ w) fun {parent v} hr => ?_
  obtain ⟨-, rfl⟩ := orFail_runIn_eq_ok hr
  refine .bind (agrees_objectOr _ _ _ v) fun {o v} hr => ?_
  obtain ⟨-, rfl⟩ := orFail_runIn_eq_ok hr
  refine .bind (Op.Agrees.object o _) fun {x v} hr => ?_
  cases hr
  refine .bind (agrees_orFail _ _ _ _) fun {list v} hr => ?_
  obtain ⟨-, rfl⟩ := orFail_runIn_eq_ok hr
  refine .bind (Op.Agrees.forM (fun _ => agrees_require _ _ _) _ _) fun {_ v} hr => ?_
  obtain rfl := forM_require_world hr
  refine .bind (Op.Agrees.ofExcept _ _) fun {engine v} hr => ?_
  obtain ⟨found, rfl⟩ := Op.ofExcept_runIn_eq_ok.1 hr
  refine .bind (hl.evaluateText c _ engine e.text fun source hs => same source engine hs found)
    fun {evaluated v} _ => ?_
  refine Op.Agrees.ite (.bind (.read fun _ _ _ => rfl) fun functions => ?_) (.pure ()) v
  refine .bind (.typeName o) fun _ => .afterLog _ _ _ _ ?_
  exact .change fun hw => hw.modify o _

/-! ### Ends of elements -/

theorem closeAs (c : DocumentContext) (d : Draft) (e : Element) {w : World}
    (same : e.kind = .listeners → l.ListensAlike host c d e w) :
    (closeAs l c d e).AgreesAt (closeAs (l.withEngines host factory) c d e) w := by
  unfold Bxml.closeAs
  cases hk : e.kind with
  | instanceOf | inclusion | reference =>
    refine Op.Agrees.bind (hl.applyAttributes _ _) (fun _ => ?_) w
    refine .bind (hl.compose _ _ _) fun d' => ?_
    exact .bind (hl.applyAttachedAttributes _ _ _ _) fun _ => .pure _
  | readOnly => exact Op.Agrees.bind (hl.applyAttributes _ _) (fun _ => .pure _) w
  | writable =>
    refine Op.Agrees.bind (agrees_orFail _ _ _) (fun o => ?_) w
    exact .bind (.mapError (hl.setProperty _ _ _ _) _) fun _ => .pure _
  | attached => exact Op.Agrees.bind (hl.applyAttachedElement _ _ _) (fun _ => .pure _) w
  | listeners => exact .bind (hl.installAdapter c d e (same hk)) fun _ => Op.Agrees.pure _ _
  | script => exact Op.Agrees.bind (hl.runScript _ _ _ _) (fun _ => .pure _) w
  | definition => exact Op.Agrees.pure _ w

theorem closeElement (c : DocumentContext) (d : Draft) (at_ : Location) {w : World}
    (same : ∀ e outer, d.stack = e :: outer → e.kind = .listeners →
      l.ListensAlike host c { d with stack := outer } e w) :
    (d.closeElement l c at_).AgreesAt (d.closeElement (l.withEngines host factory) c at_) w := by
  unfold Draft.closeElement
  split
  · exact agrees_failAt _ _ w
  · next e outer hs =>
    refine .bind (hl.closeAs _ _ _ (same e outer hs)) fun {d v} _ => ?_
    exact Op.Agrees.bind (hl.registerId _ _ _) (fun _ => .pure _) v

/-! ## Ends of documents -/

theorem connect (h : Held) (b : Bxml.Binding) (path : String) :
    (connect l h b path).Agrees (connect (l.withEngines host factory) h b path) := by
  refine .bind (.mapError (hl.copyAlong hl.setProperty h b) _) fun _ => ?_
  refine .bind (.typeName _) fun _ => .bind (.read fun _ _ _ => rfl) fun publishes => ?_
  refine .ite (.bind (.typeName _) fun _ => .afterLog _ _ _ _ ?_) (.log _ _ _ _)
  exact .change fun hw => hw.modify _ _

theorem bind (c : DocumentContext) (h : Held) (language : String) (p : PendingBinding) :
    (bind l c h language p).Agrees (bind (l.withEngines host factory) c h language p) := by
  unfold Bxml.bind
  refine .bind (agrees_require _ _ _) fun _ => .bind (agrees_mappingNamed _ _) fun mapping => ?_
  dsimp only
  split
  · exact .pure _
  · refine .ite ?_ (.bind (agrees_bindingSource _ _ _ _) fun _ => hl.connect _ _ _)
    refine .bind (agrees_resolve c _) fun v => .bind (.mapError (hl.mapped _ _ _) _) fun v => ?_
    exact .mapError (hl.setProperty _ _ _ _) _

theorem applyBindings (c : DocumentContext) (h : Held) (language : String)
    (ps : List PendingBinding) :
    (applyBindings l c h language ps).Agrees
      (applyBindings (l.withEngines host factory) c h language ps) := by
  induction ps with
  | nil => exact .pure _
  | cons p ps ih => exact .bind (hl.bind _ _ _ _) fun _ => ih

theorem completeRoot (c : DocumentContext) (h : Held) (root : Value) :
    (completeRoot l c h root).Agrees (completeRoot (l.withEngines host factory) c h root) := by
  unfold Bxml.completeRoot
  split
  · refine .bind (.read fun _ _ _ => rfl) fun hook => ?_
    split
    · exact .mapError (hl.hook _ _ _ _ _) _
    · exact .pure _
  · exact .pure _

theorem complete (c : DocumentContext) (es : Xml.Events) (d : Draft) :
    (d.complete l c es).Agrees (d.complete (l.withEngines host factory) c es) := by
  refine .bind (agrees_reportFault _ _) fun _ => .bind d.agrees_finish fun root => ?_
  refine .bind (.onError (hl.applyBindings _ _ _ _) fun _ _ _ hw => hw.emit _ _) fun _ => ?_
  refine .bind (hl.completeRoot _ _ _) fun _ => .bind (.read fun _ _ _ => rfl) fun _ => ?_
  exact .afterLog _ _ _ _ (.pure _)

/-! ## Starts of elements -/

theorem classify (stack : List Element) (tag : Xml.StartTag) (at_ : Location) :
    (classify l stack tag at_).Agrees (classify (l.withEngines host factory) stack tag at_) := by
  unfold Bxml.classify
  refine .ite (agrees_classifyControl _ _ _) ?_
  split
  · exact agrees_classifyAttached _ _ _ _ _
  · refine .ite ?_ (.ite (agrees_failAt _ _) (agrees_classifyProperty _ _ _))
    exact .bind (.mapError (hl.construct _) _) fun _ => .afterLog _ _ _ _ (.pure _)

theorem startElement {α : Type} (c : DocumentContext) (nested : Option α) (d : Draft)
    (tag : Xml.StartTag) (at_ : Location) : (startElement l c nested d tag at_).Agrees
      (startElement (l.withEngines host factory) c nested d tag at_) := by
  unfold Bxml.startElement
  refine .bind (hl.classify _ _ _) fun found => ?_
  refine .bind (.foldlM (Attributed.agrees_add _ _) _ _) fun x => ?_
  split
  · exact .bind (agrees_prepareInclusion _ _ _) fun _ => .pure _
  · exact .bind (agrees_resolveReference _) fun _ => .pure _
  · exact .pure _

/-! ## Loads -/

section

variable (nested : Option (NestedLoad × NestedLoad)) (moments : NestedMoments)
  (hn : ∀ p, nested = some p → ∀ c parented source w,
    (∀ m ∈ moments c parented source w, m.ListensAlike l host) →
      (p.1 c parented source).AgreesAt (p.2 c parented source) w)

include hn

/-- An event that starts an element does the same if the document that it includes does. -/
theorem openElement (m : Moment) (hm : m.nested = nested.map (·.1)) {tag : Xml.StartTag}
    (ht : m.event.event = .start tag)
    (inside : ∀ k ∈ m.inside l moments, k.ListensAlike l host) :
    (m.draft.openElement l m.context (nested.map (·.1)) tag m.event.location).AgreesAt
      (m.draft.openElement (l.withEngines host factory) m.context (nested.map (·.2)) tag
        m.event.location) m.world := by
  unfold Draft.openElement
  dsimp only
  rw [startElement_map, startElement_map, bind_map_left, bind_map_left]
  refine .bind (hl.startElement m.context nested _ tag _ m.world) fun {r u} hs => ?_
  obtain ⟨x, origin⟩ := r
  cases origin with
  | known v => exact Draft.agrees_push _ _ _ _ u
  | inclusion p i =>
    obtain ⟨_, hp⟩ := startElement_inclusion hs
    have here := prepareInclusion_fst hp
    have started : m.included? l = some (p.1, i, u) := by
      unfold Moment.included?
      rw [ht, hm]
      dsimp only
      rw [startElement_map, map_eq_pure_bind, Op.bind_runIn_of_ok hs]
      rfl
    refine .bind (.mapError (.bind (Op.Agrees.ofExcept _ u) fun {source v} hr => ?_) _)
      fun {r v} _ => Draft.agrees_push _ _ _ _ v
    obtain ⟨read, rfl⟩ := Op.ofExcept_runIn_eq_ok.1 hr
    refine .bind (hn p here _ _ _ _ fun k hk => inside k ?_) fun _ => Op.Agrees.pure _ _
    unfold Moment.inside
    rw [started]
    dsimp only
    rwa [read]

theorem step (m : Moment) (hm : m.nested = nested.map (·.1)) (same : m.ListensAlike l host)
    (inside : ∀ k ∈ m.inside l moments, k.ListensAlike l host) :
    (m.draft.step l m.context (nested.map (·.1)) m.event).AgreesAt
      (m.draft.step (l.withEngines host factory) m.context (nested.map (·.2)) m.event) m.world := by
  unfold Draft.step
  split
  · exact Draft.agrees_addInstruction _ _ _ _ m.world
  · next ht => exact hl.openElement nested moments hn m hm ht inside
  · next he => exact hl.closeElement _ _ _ (same he)
  · exact hl.addText _ _ _ _ m.world

theorem takeEvents (c : DocumentContext) (items : List Xml.Located) (d : Draft) (w : World)
    (same : ∀ m ∈ momentsFrom l c (nested.map (·.1)) moments items d w, m.ListensAlike l host) :
    (takeEvents l c (nested.map (·.1)) d items).AgreesAt
      (takeEvents (l.withEngines host factory) c (nested.map (·.2)) d items) w := by
  induction items generalizing d w with
  | nil => exact Op.Agrees.pure d w
  | cons x r ih =>
    unfold momentsFrom at same
    simp only [List.cons_append, List.mem_cons, List.mem_append, forall_eq_or_imp] at same
    obtain ⟨here, later⟩ := same
    have taken := hl.step nested moments hn ⟨c, _, d, x, w⟩ rfl here
      fun k hk => later k (.inl hk)
    unfold Bxml.takeEvents
    rw [List.foldlM_cons, List.foldlM_cons]
    refine .bind (taken.onError fun e _ _ hw => agrees_reportFailure c _ e hw) fun {d' v} hr => ?_
    have result : Moment.result l ⟨c, nested.map (·.1), d, x, w⟩ = (.ok d', v) :=
      Op.onError_runIn_eq_ok.1 hr
    rw [result] at later
    exact ih d' v fun k hk => later k (.inr hk)

theorem loadWith (c : DocumentContext) (parented : List ObjectId) (source : String) (w : World)
    (same : ∀ m ∈ momentsWith l (nested.map (·.1)) moments c parented source w,
      m.ListensAlike l host) :
    (loadWith l (nested.map (·.1)) c parented source).AgreesAt
      (loadWith (l.withEngines host factory) (nested.map (·.2)) c parented source) w := by
  refine .bind (Op.Agrees.change (fun hw => hw.emit _ _) w) fun {_ v} hr => ?_
  cases hr
  refine .bind (hl.takeEvents nested moments hn c (Xml.events source).items (.start parented)
    (c.announce w) same) fun {d v} _ => ?_
  exact hl.complete c _ d v

end

theorem loadNested (n : Nat) (c : DocumentContext) (parented : List ObjectId) (source : String)
    (w : World) (same : ∀ m ∈ momentsNested l n c parented source w, m.ListensAlike l host) :
    (loadNested l n c parented source).AgreesAt
      (loadNested (l.withEngines host factory) n c parented source) w := by
  induction n generalizing c parented source w with
  | zero => exact hl.loadWith none _ (fun _ h => by cases h) c parented source w same
  | succ n ih =>
    refine hl.loadWith (some (Bxml.loadNested l n, Bxml.loadNested (l.withEngines host factory) n))
      (momentsNested l n) (fun p h => ?_) c parented source w same
    cases h
    exact ih

theorem loadOuter (c : DocumentContext) (source : String) (w : World)
    (same : ∀ m ∈ l.moments c source w, m.ListensAlike l host) :
    (l.loadOuter c source).AgreesAt ((l.withEngines host factory).loadOuter c source) w :=
  .bind (hl.loadNested l.maxDepth c [] source w same) fun _ => Op.Agrees.pure _ _

end Loader.SameEngines

/-! ## Whole loads -/

/-- Whether the script of a script element gives a value or fails makes no difference to a load: it
comes to the same with engines that do the same to objects and ids and fail for the same listener
elements. -/
theorem loads_agree_of_sameEngines {l : Loader} {host : Host} {factory : TypeFactory}
    (hl : l.SameEngines host factory) (h : Held) (table : Option TableId) (w : World) :
    (∀ source location,
      (∀ c u, (l.outerContext h table none location).runIn w = (.ok c, u) →
        ∀ m ∈ l.moments c source u, m.ListensAlike l host) →
      (l.loadText h source table location).AgreesAt
        ((l.withEngines host factory).loadText h source table location) w) ∧
    (∀ location bundle,
      (∀ c u source, (l.outerContext h table bundle (some location)).runIn w = (.ok c, u) →
        l.readText location l.charset = .ok source →
        ∀ m ∈ l.moments c source u, m.ListensAlike l host) →
      (l.loadUrl h location table bundle).AgreesAt
        ((l.withEngines host factory).loadUrl h location table bundle) w) := by
  have outer (bundle : Option Bundle) (location : Option Url) :
      (l.outerContext h table bundle location).Agrees
        (l.outerContext h table bundle location) := by
    cases table with
    | none => exact .bind (.make fun hw => hw.allocTable _) fun _ => .pure _
    | some t => exact .pure _
  refine ⟨fun source location same => ?text, fun location bundle same => ?url⟩
  case text => exact .bind (outer none location w) fun hc => hl.loadOuter _ source _ (same _ _ hc)
  case url =>
    refine .bind (outer bundle (some location) w) fun {c u} hc => ?_
    refine .bind (Op.Agrees.ofExcept _ u) fun {source v} hr => ?_
    obtain ⟨read, rfl⟩ := Op.ofExcept_runIn_eq_ok.1 hr
    exact hl.loadOuter c source v (same c v source hc read)

/-- An engine that makes every text an id of the document, and then refuses some of them. -/
def Engine.noting (refuses : String → Bool) : Engine where
  language := defaultLanguage
  functions := .empty
  evaluator := some fun _ source t => do
    (Op.update (·.putId t source .null)).mapError fun _ => .failed source
    if refuses source then throw (.failed source) else return .null

/-- A host with nothing but such an engine. -/
def Host.noting (refuses : String → Bool) : Host :=
  { Host.plain defaultLanguage with engine := fun _ => .noting refuses }

/-- The loader of buttons with such an engine. -/
def Loader.noting (refuses : String → Bool) : Loader :=
  { Loader.buttons with
    host := .noting refuses, languages := Languages.empty.register ⟨0⟩ defaultLanguage [] [] }

theorem Engine.agrees_noting {p q : String → Bool} {source : String} (same : p source = q source)
    (h : Held) (t : TableId) : ((noting p).eval h source t).Agrees ((noting q).eval h source t) := by
  refine .bind (.mapError (.update fun hw => hw.putId t source .null) _) fun _ => ?_
  rw [same]
  exact .ite (.throw _) (.pure _)

theorem Loader.sameEngines_noting (p q : String → Bool) :
    (Loader.noting p).SameEngines (.noting q) Loader.buttons.factory where
  nesting := rfl
  invoke _ _ _ _ := .throw _
  hook _ _ _ _ _ := .pure _
  construct typeName := by
    change ((TypeRegistry.factory _).construct typeName).Agrees
      ((TypeRegistry.factory _).construct typeName)
    unfold TypeRegistry.factory
    dsimp only
    split
    · next hc =>
      change (Entries.insert _ _ _).get? typeName = _ at hc
      rw [Entries.get?_insert] at hc
      split at hc
      · cases hc
        exact .make fun hw => hw.alloc _
      · cases hc
    · exact .throw _
  attach _ _ _ _ _ := .throw _
  eval e h source t w w' hw := by
    have noted (r : String → Bool) (w : World) : (((Engine.noting r).eval h source t).runIn w).2 =
        (((Engine.noting fun _ => false).eval h source t).runIn w).2 := by
      unfold Engine.eval Engine.noting
      dsimp only
      rw [Op.bind_runIn, Op.bind_runIn]
      split
      · split <;> rfl
      · rfl
    change (((Engine.noting p).eval h source t).runIn w).2.Agrees
      (((Engine.noting q).eval h source t).runIn w').2
    rw [noted p, noted q]
    exact (Engine.agrees_noting rfl h t w w' hw).world

/-- The script of the button is refused by one engine only; all the same the button has its listener,
and both texts have become ids. -/
theorem loads_agree_of_noting :
    let l := Loader.noting (· == "boom")
    let source := "<Button><bxml:script>boom</bxml:script>" ++
      "<clickListeners clicked='go'>listen</clickListeners></Button>"
    let loaded := l.loadText .nothing source none none
    loaded.succeeds .empty (fun o w =>
      (w.table o.table).keys == ["boom", "listen"] &&
        (o.root.object?.bind fun x => (w.object x).listeners? "clickListeners").any
          (·.listeners.length == 1)) = true ∧
      l.SameEngines (.noting fun _ => false) Loader.buttons.factory ∧
      (∀ c u, (l.outerContext .nothing none none none).runIn .empty = (.ok c, u) →
        ∀ m ∈ l.moments c source u, m.ListensAlike l (.noting fun _ => false)) ∧
      loaded.AgreesAt ((Loader.noting fun _ => false).loadText .nothing source none none) .empty := by
  intro l source loaded
  have engines := Loader.sameEngines_noting (· == "boom") fun _ => false
  have listens : ∀ c u, (l.outerContext .nothing none none none).runIn .empty = (.ok c, u) →
      ∀ m ∈ l.moments c source u, m.ListensAlike l (.noting fun _ => false) := by
    intro c u hc m hm _ e outer hs hk text engine ht _ w' hw
    cases hc
    have texts : (l.moments (.outer none) source .blank).all (fun m =>
        m.draft.stack.all fun e => e.kind != .listeners || e.text != some "boom") = true := by
      decide +kernel
    have checked := List.all_eq_true.1 (List.all_eq_true.1 texts m hm) e (by simp [hs])
    have accepted : (text == "boom") = false := by
      simpa [hk, ht] using checked
    exact congrArg Except.isOk (Engine.agrees_noting accepted _ _ _ w' hw).result
  refine ⟨by decide +kernel, engines, listens, ?_⟩
  exact (loads_agree_of_sameEngines engines .nothing none .empty).1 source none listens

end Bxml
