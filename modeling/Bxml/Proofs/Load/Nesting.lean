import Bxml.Proofs.Load.Enduring
import Bxml.Proofs.World.Places

/-!
# How far changes are passed on

A host passes a change on because of another only so often in a row, and a world that is left by a
change that was given up is exhausted.  As long as a world is not, it makes no difference how much
further changes might have been passed on: every operation of a load, and so the load, comes to the
same with every host that passes them on further.

* `Op.Within` is this relation between two operations, with a lemma for each way to build
  operations.
* `Loader.Within` is what is asked of the collaborators of two loaders: they respect the relation,
  and nobody takes back that the world is exhausted (`World.StaysExhausted`).
* `Loader.Within.loadOuter` is the result for loads.

The hard step is a change that is given up by the one host and passed on by the other.  It leaves an
exhausted world on one side, and then nothing is claimed; so that all that follows must keep it
exhausted, `Op.exhausted_bind`.
-/

namespace Bxml

/-- Whether a world is exhausted if an earlier one is. -/
def World.StaysExhausted (w v : World) : Prop := w.exhausted = true → v.exhausted = true

instance : World.Enduring World.StaysExhausted where
  refl _ h := h
  trans h h' := h' ∘ h
  emit _ _ h := h
  exhaust _ _ := rfl
  alloc _ _ h := h
  allocTable _ _ h := h
  assign ha h := by
    obtain ⟨f, hf⟩ := World.exists_modify_of_assign ha
    rw [hf]
    exact h
  append _ _ _ h := h
  subscribe _ _ _ _ h := h
  addListener _ _ _ _ h := h
  putId hp h := by
    rw [(World.putId_eq hp).2]
    exact h

open World (StaysExhausted)

/-- What follows an operation that leaves an exhausted world leaves one too. -/
theorem Op.exhausted_bind {ε α β : Type} {x : Op ε α} {f : α → Op ε β} {w : World}
    (hx : (x.runIn w).2.exhausted = true) (hf : ∀ a, (f a).Keeps StaysExhausted) :
    ((x >>= f).runIn w).2.exhausted = true := by
  rw [Op.bind_runIn]
  rcases hr : x.runIn w with ⟨e | a, u⟩ <;> rw [hr] at hx
  · exact hx
  · exact hf a u hx

theorem Op.mapError_runIn_snd {ε δ α : Type} (f : ε → δ) (x : Op ε α) (w : World) :
    ((x.mapError f).runIn w).2 = (x.runIn w).2 := by
  rw [Op.mapError_runIn]
  rcases x.runIn w with ⟨_ | _, _⟩ <;> rfl

theorem Op.onError_runIn_exhausted {ε α : Type} {x : Op ε α} {f : ε → World → World} {w : World}
    (hf : ∀ e w, StaysExhausted w (f e w)) (hx : (x.runIn w).2.exhausted = true) :
    ((x.onError f).runIn w).2.exhausted = true := by
  rw [Op.onError_runIn]
  rcases hr : x.runIn w with ⟨e | a, u⟩ <;> rw [hr] at hx
  · exact hf e u hx
  · exact hx

/-- Whether an operation comes to what another one comes to, unless it leaves an exhausted world. -/
structure Op.Within {ε α : Type} (x y : Op ε α) : Prop where
  keeps : x.Keeps StaysExhausted
  same : ∀ w, (x.runIn w).2.exhausted = true ∨ x.runIn w = y.runIn w

namespace Op.Within

variable {ε δ α β : Type} {x y : Op ε α}

theorem runIn_eq (h : x.Within y) {r : Except ε α} {w v : World} (hx : x.runIn w = (r, v))
    (hv : v.exhausted = false) : y.runIn w = (r, v) := by
  rw [← hx]
  obtain exhausted | same := h.same w
  · rw [hx, hv] at exhausted
    cases exhausted
  · exact same.symm

theorem refl (hx : x.Keeps StaysExhausted) : x.Within x := ⟨hx, fun _ => .inr rfl⟩

theorem pure (a : α) : Op.Within (pure a : Op ε α) (Pure.pure a) := .refl (.pure a)

theorem bind {f g : α → Op ε β} (hx : x.Within y) (hf : ∀ a, (f a).Within (g a)) :
    (x >>= f).Within (y >>= g) where
  keeps := hx.keeps.bind fun a => (hf a).keeps
  same w := by
    obtain exhausted | same := hx.same w
    · exact .inl (Op.exhausted_bind exhausted fun a => (hf a).keeps)
    · rw [Op.bind_runIn, Op.bind_runIn, same]
      rcases y.runIn w with ⟨e | a, u⟩
      · exact .inr rfl
      · exact (hf a).same u

/-- What is the same on both sides comes first. -/
theorem after {f g : α → Op ε β} (hx : x.Keeps StaysExhausted) (hf : ∀ a, (f a).Within (g a)) :
    (x >>= f).Within (x >>= g) := bind (refl hx) hf

theorem mapError (f : ε → δ) (hx : x.Within y) : (x.mapError f).Within (y.mapError f) where
  keeps := hx.keeps.mapError f
  same w := by
    rw [Op.mapError_runIn_snd]
    obtain exhausted | same := hx.same w
    · exact .inl exhausted
    · rw [Op.mapError_runIn, Op.mapError_runIn, same]
      exact .inr rfl

theorem attempt (hx : x.Within y) :
    (x.attempt : Op δ (Except ε α)).Within (y.attempt : Op δ (Except ε α)) where
  keeps := hx.keeps.attempt
  same w := by
    rw [Op.attempt_runIn, Op.attempt_runIn]
    obtain exhausted | same := hx.same w
    · exact .inl exhausted
    · rw [same]
      exact .inr rfl

theorem onError {f : ε → World → World} (hx : x.Within y) (hf : ∀ e w, StaysExhausted w (f e w)) :
    (x.onError f).Within (y.onError f) where
  keeps := hx.keeps.onError hf
  same w := by
    obtain exhausted | same := hx.same w
    · exact .inl (Op.onError_runIn_exhausted hf exhausted)
    · rw [Op.onError_runIn, Op.onError_runIn, same]
      exact .inr rfl

theorem ite {p : Prop} [Decidable p] {x' y' : Op ε α} (hx : x.Within y) (hx' : x'.Within y') :
    (if p then x else x').Within (if p then y else y') := by
  split
  · exact hx
  · exact hx'

theorem foldlM {f g : β → α → Op ε β} {items : List α} {b : β}
    (hf : ∀ b a, (f b a).Within (g b a)) : (items.foldlM f b).Within (items.foldlM g b) := by
  induction items generalizing b with
  | nil => exact pure b
  | cons a r ih =>
    rw [List.foldlM_cons, List.foldlM_cons]
    exact (hf b a).bind fun _ => ih

theorem forM {f g : α → Op ε Unit} {items : List α} (hf : ∀ a, (f a).Within (g a)) :
    (items.forM f).Within (items.forM g) := by
  induction items with
  | nil => exact pure ()
  | cons a r ih =>
    change (f a >>= fun _ => r.forM f).Within (g a >>= fun _ => r.forM g)
    exact (hf a).bind fun _ => ih

end Op.Within

/-! ## Writes -/

namespace Host.Keeps

variable {host : Host} (hh : host.Keeps StaysExhausted) {write write' : Write}

section

variable (hw : ∀ h o name v, (write h o name v).Within (write' h o name v))

include hh hw

theorem within_copyAlong (h : Held) (b : Binding) :
    (host.copyAlong write h b).Within (host.copyAlong write' h b) := by
  unfold Host.copyAlong
  refine .after (.read _) fun alive => .ite ?_ (.pure ())
  refine .after (.mapError _ (.check _)) fun v => .after (hh.mapped _ _ v) fun v => ?_
  exact .after (.read _) fun holds => .ite (.pure ()) (.mapError _ (hw _ _ _ _))

theorem within_publish (h : Held) (o : ObjectId) (name : String) (previous : Value) :
    (host.publish write h o name previous).Within (host.publish write' h o name previous) := by
  refine .after (.read _) fun subscribers => .forM fun s => ?_
  cases s with
  | watcher label => exact .refl (.emit _)
  | binding b =>
    refine .bind (.attempt (hh.within_copyAlong hw h b)) fun r => ?_
    cases r with
    | ok _ => exact .pure ()
    | error e => exact .refl (.log _ _)

end

theorem within_writeThen
    {publish publish' : Held → ObjectId → String → Value → Op PropertyError Unit}
    (hp : ∀ h o name v, (publish h o name v).Within (publish' h o name v)) (h : Held) (o : ObjectId)
    (name : String) (v : Value) :
    (Host.writeThen publish h o name v).Within (Host.writeThen publish' h o name v) where
  keeps := Host.Keeps.writeThen (fun h o name v => (hp h o name v).keeps) h o name v
  same w := by
    unfold Op.runIn Host.writeThen
    split
    · exact .inr rfl
    · exact .inr rfl
    · exact (hp _ _ _ _).same _

/-- A change that nobody is told of need not be given up. -/
theorem within_giveUp (write : Write) (h : Held) (o : ObjectId) (name : String) (previous : Value) :
    (giveUp h o name previous).Within (host.publish write h o name previous) where
  keeps := .change fun w => by
    split
    · exact fun h => h
    · exact fun _ => rfl
  same w := by
    unfold giveUp Host.publish
    rw [Op.change_runIn, Op.bind_runIn, Op.read_runIn]
    cases subscribers : (w.object o).subscribersOf name with
    | nil => exact .inr rfl
    | cons s r => exact .inl rfl

include hh

theorem within_write {m n : Nat} (hn : m ≤ n) (k : Nat) (h : Held) (o : ObjectId) (name : String)
    (v : Value) :
    (host.write m h o name v).Within (({ host with nesting := k } : Host).write n h o name v) := by
  induction m generalizing n h o name v with
  | zero =>
    cases n with
    | zero => exact .refl (hh.write 0 h o name v)
    | succ n => exact within_writeThen (fun h o name v => within_giveUp _ h o name v) h o name v
  | succ m ih =>
    cases n with
    | zero => exact absurd hn (Nat.not_succ_le_zero m)
    | succ n =>
      have further := ih (Nat.le_of_succ_le_succ hn)
      exact within_writeThen (hh.within_publish further) h o name v

end Host.Keeps

/-! ## What loads an included document -/

section

variable {l : Loader} {α β : Type} (f : α → β)

theorem prepareInclusion_map (c : DocumentContext) (nested : Option α) (d : Draft) (e : Element) :
    prepareInclusion l c (nested.map f) d e =
      (fun p => (f p.1, p.2)) <$> prepareInclusion l c nested d e := by
  unfold prepareInclusion
  cases nested with
  | none =>
    simp only [map_bind, Option.map_none]
    refine bind_congr fun _ => bind_congr fun _ => rfl
  | some a =>
    simp only [map_bind, map_pure, Option.map_some]
    rfl

/-- What an origin says of what is there for loading. -/
def Origin.map : Origin α → Origin β
  | .inclusion a i => .inclusion (f a) i
  | .known v => .known v

/-- What is there for loading included documents is only handed on. -/
theorem startElement_map (c : DocumentContext) (nested : Option α) (d : Draft) (tag : Xml.StartTag)
    (at_ : Location) : startElement l c (nested.map f) d tag at_ =
      (fun p => (p.1, p.2.map f)) <$> startElement l c nested d tag at_ := by
  unfold startElement
  simp only [map_bind]
  refine bind_congr fun found => bind_congr fun x => ?_
  split
  · rw [prepareInclusion_map]
    simp only [map_bind, bind_map_left, map_pure]
    rfl
  · simp only [map_bind, map_pure]
    rfl
  · rfl

end

/-! ## Loads -/

/-- A loader whose host passes changes on `n` times in a row, and that attaches properties by
`attach`. -/
def Loader.allowing (l : Loader) (n : Nat)
    (attach : Held → String → String → ObjectId → Value → Op FactoryError Unit) : Loader :=
  { l with host := { l.host with nesting := n }, factory := { l.factory with attach := attach } }

/-- Whether a loader passes changes on at most as far as another one like it, and no collaborator
takes back that the world is exhausted. -/
structure Loader.Within (l : Loader) (n : Nat)
    (attach : Held → String → String → ObjectId → Value → Op FactoryError Unit) : Prop where
  keeps : l.Keeps StaysExhausted
  nesting : l.host.nesting ≤ n
  attach (h : Held) (owner property : String) (o : ObjectId) (v : Value) :
    (l.factory.attach h owner property o v).Within (attach h owner property o v)

namespace Loader.Within

variable {l : Loader} {n : Nat}
  {attach : Held → String → String → ObjectId → Value → Op FactoryError Unit}
  (hl : l.Within n attach)

include hl

theorem setProperty (h : Held) (o : ObjectId) (name : String) (v : Value) :
    (l.host.setProperty h o name v).Within ((l.allowing n attach).host.setProperty h o name v) :=
  hl.keeps.host.within_write hl.nesting n h o name v

theorem addChild (h : Held) (o : ObjectId) (v : Value) (at_ : Location) :
    (addChild l h o v at_).Within (addChild (l.allowing n attach) h o v at_) := by
  unfold Bxml.addChild
  refine .after (.read _) fun x => ?_
  split
  · refine .after (.mapError _ (.ofExcept _)) fun current => .after (.read _) fun list => ?_
    cases list with
    | some p => exact .refl (.change fun w => World.Lasting.append w p v)
    | none => exact .mapError _ (hl.setProperty _ _ _ _)
  · exact .refl (.ite (.change fun w => World.Lasting.append w o v) (keeps_failAt _ _))

theorem compose (c : DocumentContext) (d : Draft) (e : Element) :
    (compose l c d e).Within (compose (l.allowing n attach) c d e) := by
  unfold Bxml.compose
  refine .after (.ofExcept _) fun r => ?_
  cases r with
  | none => exact .pure _
  | some r =>
    refine .after (Loader.Keeps.adopt _ _ _) fun parented => ?_
    cases r with
    | element => exact .pure _
    | object o => exact .bind (hl.addChild _ _ _ _) fun _ => .pure _

theorem applyAttributes (h : Held) (e : Element) :
    (applyAttributes l h e).Within (applyAttributes (l.allowing n attach) h e) := by
  refine .ite (.pure _) (.after (keeps_objectOr _ _ _) fun o => .forM fun p => ?_)
  exact .mapError _ (hl.setProperty _ _ _ _)

theorem addText (c : DocumentContext) (d : Draft) (text : String) (at_ : Location) :
    (d.addText l c text at_).Within (d.addText (l.allowing n attach) c text at_) := by
  unfold Draft.addText
  refine .ite (.pure _) ?_
  split
  · exact .refl (keeps_failAt _ _)
  · split
    · refine .after (keeps_objectOr _ _ _) fun o => .after (.read _) fun x => ?_
      exact .after (keeps_require _ _ _) fun _ => .bind (hl.addChild _ _ _ _) fun _ => .pure _
    · exact .pure _
    · exact .pure _
    · exact .pure _
    · exact .pure _
    · exact .refl (keeps_failAt _ _)

theorem applyAttachedAttributes (c : DocumentContext) (h : Held) (language : String) (e : Element) :
    (applyAttachedAttributes l c h language e).Within
      (applyAttachedAttributes (l.allowing n attach) c h language e) := by
  refine .ite (.pure _) (.after (keeps_objectOr _ _ _) fun o => .forM fun a => ?_)
  refine .after (.read _) fun list => ?_
  cases list with
  | some list =>
    refine .refl (.bind (keeps_require _ _ _) fun _ => .bind (.ofExcept _) fun _ => ?_)
    exact .bind (.log _ _) fun _ => .change fun w => World.Lasting.addListener w _ _ _
  | none =>
    refine .after (c.keeps_resolveAttribute _ _) fun v => ?_
    cases v with
    | binding _ => exact .refl (keeps_failAt _ _)
    | resolved v =>
      refine .bind (.mapError _ (hl.attach _ _ _ _ _)) fun _ => .refl ?_
      exact .bind (.typeName _) fun _ => .log _ _

theorem applyAttachedElement (h : Held) (stack : List Element) (e : Element) :
    (applyAttachedElement l h stack e).Within
      (applyAttachedElement (l.allowing n attach) h stack e) :=
  .after (keeps_orFail _ _ _) fun _ => .after (keeps_orFail _ _ _) fun _ =>
    .mapError _ (hl.attach _ _ _ _ _)

theorem closeAs (c : DocumentContext) (d : Draft) (e : Element) :
    (closeAs l c d e).Within (closeAs (l.allowing n attach) c d e) := by
  unfold Bxml.closeAs
  cases e.kind with
  | instanceOf | inclusion | reference =>
    refine .bind (hl.applyAttributes _ _) fun _ => .bind (hl.compose _ _ _) fun d' => ?_
    exact .bind (hl.applyAttachedAttributes _ _ _ _) fun _ => .pure _
  | readOnly => exact .bind (hl.applyAttributes _ _) fun _ => .pure _
  | writable =>
    refine .after (keeps_orFail _ _ _) fun o => ?_
    exact .bind (.mapError _ (hl.setProperty _ _ _ _)) fun _ => .pure _
  | attached => exact .bind (hl.applyAttachedElement _ _ _) fun _ => .pure _
  | listeners => exact .refl (.bind (hl.keeps.installAdapter _ _ _ _ _) fun _ => .pure _)
  | script => exact .refl (.bind (hl.keeps.runScript _ _ _ _) fun _ => .pure _)
  | definition => exact .pure _

theorem registerId (c : DocumentContext) (h : Held) (e : Element) :
    (registerId l c h e).Within (registerId (l.allowing n attach) c h e) := by
  unfold Bxml.registerId
  split
  · refine .after (.mapError _ (.update fun _ _ => World.Enduring.putId)) fun _ => ?_
    split
    · refine .after (.read _) fun property => ?_
      split
      · exact .mapError _ (hl.setProperty _ _ _ _)
      · exact .pure _
    · exact .pure _
  · exact .pure _

theorem closeElement (c : DocumentContext) (d : Draft) (at_ : Location) :
    (d.closeElement l c at_).Within (d.closeElement (l.allowing n attach) c at_) := by
  unfold Draft.closeElement
  split
  · exact .refl (keeps_failAt _ _)
  · exact .bind (hl.closeAs _ _ _) fun _ => .bind (hl.registerId _ _ _) fun _ => .pure _

theorem connect (h : Held) (b : Bxml.Binding) (path : String) :
    (connect l h b path).Within (connect (l.allowing n attach) h b path) := by
  refine .bind (.mapError _ ?_) fun _ => .refl ?_
  · exact hl.keeps.host.within_copyAlong (fun h o name v => hl.setProperty h o name v) h b
  · refine .bind (.typeName _) fun _ => .bind (.read _) fun publishes => .ite ?_ (.log _ _)
    refine .bind (.typeName _) fun _ => .bind (.log _ _) fun _ => ?_
    exact .change fun w => World.Lasting.subscribe w _ _ _

theorem bind (c : DocumentContext) (h : Held) (language : String) (p : PendingBinding) :
    (bind l c h language p).Within (bind (l.allowing n attach) c h language p) := by
  unfold Bxml.bind
  refine .after (keeps_require _ _ _) fun _ => .after (Loader.Keeps.mappingNamed _ _) fun _ => ?_
  dsimp only
  split
  · exact .pure _
  · refine .ite ?_ (.after (Loader.Keeps.bindingSource _ _ _ _) fun _ => hl.connect _ _ _)
    refine .after (.mapError _ (.check _)) fun v => ?_
    exact .after (.mapError _ (hl.keeps.host.mapped _ _ _)) fun v =>
      .mapError _ (hl.setProperty _ _ _ _)

theorem applyBindings (c : DocumentContext) (h : Held) (language : String)
    (ps : List PendingBinding) :
    (applyBindings l c h language ps).Within
      (applyBindings (l.allowing n attach) c h language ps) := by
  induction ps with
  | nil => exact .pure _
  | cons p ps ih => exact .bind (hl.bind _ _ _ _) fun _ => ih

theorem complete (c : DocumentContext) (es : Xml.Events) (d : Draft) :
    (d.complete l c es).Within (d.complete (l.allowing n attach) c es) := by
  refine .after (Loader.Keeps.reportFault _ _) fun _ => .after (Loader.Keeps.finish _) fun root => ?_
  refine .bind (.onError (hl.applyBindings _ _ _ _) fun _ w => World.Lasting.emit w _) fun _ => ?_
  refine .refl (.bind (hl.keeps.completeRoot _ _ _) fun _ => .bind (.read _) fun _ => ?_)
  exact .bind (.log _ _) fun _ => .pure _

section

variable (nested : Option (NestedLoad × NestedLoad))
  (hn : ∀ p, nested = some p → ∀ c parented source,
    (p.1 c parented source).Within (p.2 c parented source))

include hn

theorem openElement (c : DocumentContext) (d : Draft) (tag : Xml.StartTag) (at_ : Location) :
    (d.openElement l c (nested.map (·.1)) tag at_).Within
      (d.openElement (l.allowing n attach) c (nested.map (·.2)) tag at_) where
  keeps := by
    refine hl.keeps.openElement (fun m h c parented source => ?_) c d tag at_
    obtain ⟨p, hp, rfl⟩ := Option.map_eq_some_iff.1 h
    exact (hn p hp c parented source).keeps
  same w := by
    have started (nested : Option NestedLoad) :
        startElement (l.allowing n attach) c nested (d.settleLanguage (l.allowing n attach)) tag
            at_ =
          startElement l c nested (d.settleLanguage l) tag at_ := rfl
    unfold Draft.openElement
    dsimp only
    rw [started, startElement_map, startElement_map, bind_map_left, bind_map_left, Op.bind_runIn,
      Op.bind_runIn]
    rcases hs : (startElement l c nested (d.settleLanguage l) tag at_).runIn w with
      ⟨e | ⟨x, origin⟩, u⟩
    · exact .inr rfl
    · cases origin with
      | known v => exact .inr rfl
      | inclusion p i =>
        obtain ⟨_, hp⟩ := startElement_inclusion hs
        refine (Op.Within.bind (.mapError _ ?_) fun _ => .refl (Draft.keeps_push _ _ _ _)).same u
        exact .after (.ofExcept _) fun source =>
          .bind (hn p (prepareInclusion_fst hp) i.context d.parented source) fun _ => .pure _

theorem step (c : DocumentContext) (d : Draft) (x : Xml.Located) :
    (d.step l c (nested.map (·.1)) x).Within
      (d.step (l.allowing n attach) c (nested.map (·.2)) x) := by
  unfold Draft.step
  split
  · exact .refl (Loader.Keeps.addInstruction _ _ _ _)
  · exact hl.openElement nested hn _ _ _ _
  · exact hl.closeElement _ _ _
  · exact hl.addText _ _ _ _

theorem takeEvents (c : DocumentContext) (d : Draft) (items : List Xml.Located) :
    (takeEvents l c (nested.map (·.1)) d items).Within
      (takeEvents (l.allowing n attach) c (nested.map (·.2)) d items) :=
  .foldlM fun _ _ => .onError (hl.step nested hn _ _ _) (Loader.Keeps.reportFailure_lasts _ _)

theorem loadWith (c : DocumentContext) (parented : List ObjectId) (source : String) :
    (loadWith l (nested.map (·.1)) c parented source).Within
      (loadWith (l.allowing n attach) (nested.map (·.2)) c parented source) := by
  refine .after (.change fun w => World.Lasting.emit w _) fun _ => ?_
  exact .bind (hl.takeEvents nested hn _ _ _) fun d => hl.complete _ _ d

end

theorem loadNested (depth : Nat) (c : DocumentContext) (parented : List ObjectId)
    (source : String) :
    (loadNested l depth c parented source).Within
      (loadNested (l.allowing n attach) depth c parented source) := by
  induction depth generalizing c parented source with
  | zero => exact hl.loadWith none (fun _ h => by cases h) c parented source
  | succ k ih =>
    refine hl.loadWith (some (Bxml.loadNested l k, Bxml.loadNested (l.allowing n attach) k))
      (fun p h => ?_) c parented source
    cases h
    exact ih

/-- A load of the outermost document that is not exhausted comes to the same however much further
changes may be passed on. -/
theorem loadOuter (c : DocumentContext) (source : String) :
    (l.loadOuter c source).Within ((l.allowing n attach).loadOuter c source) :=
  .bind (hl.loadNested l.maxDepth c [] source) fun _ => .pure _

end Loader.Within

end Bxml
