import Bxml.Proofs.Load.Steps

/-!
# What operations fail with

An operation of a load fails with an error of its own: no collaborator can wrap one, since what it
fails with is seen as an error of its kind.  Three errors are out of the ordinary.  A wrapper tells
of an included document, a fault of depth is for the document at the greatest depth, and the
internal faults are for open elements that do not hold what they should.  The lemmas of this file say
for each operation that it fails in the ordinary way, or when it does not.

* `Op.FailsOnly` says that an operation fails only with errors of some kind, and has a lemma for
  each way to build operations.
* `StructureFault.isInternal` and `StructureFault.isTooDeep` name the faults that are out of the
  ordinary, and `LoadError.IsOrdinary` is all the rest.
* There is one lemma for each operation.  Those that look into an open element ask for what it
  should hold (`isOrdinary_applyAttachedAttributes`, `Draft.isOrdinary_addText`);
  `installAdapter_error` needs more than that.

That open elements do hold what they should is the matter of `Load/Holding.lean`, and both come
together in `Load/Internal.lean`.
-/

namespace Bxml

/-! ## Operations -/

/-- A sequence fails if its first part does, or the second after the first. -/
theorem Op.bind_runIn_eq_error {ε α β : Type} {x : Op ε α} {f : α → Op ε β} {w v : World} {e : ε} :
    (x >>= f).runIn w = (.error e, v) ↔
      x.runIn w = (.error e, v) ∨ ∃ a u, x.runIn w = (.ok a, u) ∧ (f a).runIn u = (.error e, v) := by
  rw [Op.bind_runIn]
  rcases x.runIn w with ⟨e' | a, u⟩
  · simp
  · constructor
    · exact fun h => .inr ⟨a, u, rfl, h⟩
    · rintro (h | ⟨_, _, h, k⟩)
      · cases h
      · cases h
        exact k

/-- Whether an operation succeeds with a result and a world that pass a test. -/
def Op.succeeds {ε α : Type} (x : Op ε α) (w : World) (test : α → World → Bool) : Bool :=
  match x.runIn w with
  | (.ok a, v) => test a v
  | (.error _, _) => false

/-- Whether an operation fails with an error and a world that pass a test. -/
def Op.fails {ε α : Type} (x : Op ε α) (w : World) (test : ε → World → Bool) : Bool :=
  match x.runIn w with
  | (.ok _, _) => false
  | (.error e, v) => test e v

theorem Op.exists_of_succeeds {ε α : Type} {x : Op ε α} {w : World} {test : α → World → Bool}
    (h : x.succeeds w test = true) : ∃ a v, x.runIn w = (.ok a, v) ∧ test a v = true := by
  unfold succeeds at h
  rcases hr : x.runIn w with ⟨e | a, v⟩ <;> rw [hr] at h
  · cases h
  · exact ⟨a, v, rfl, h⟩

theorem Op.exists_of_fails {ε α : Type} {x : Op ε α} {w : World} {test : ε → World → Bool}
    (h : x.fails w test = true) : ∃ e v, x.runIn w = (.error e, v) ∧ test e v = true := by
  unfold fails at h
  rcases hr : x.runIn w with ⟨e | a, v⟩ <;> rw [hr] at h
  · exact ⟨e, v, rfl, h⟩
  · cases h

/-- Whether an operation fails only with errors of a kind. -/
def Op.FailsOnly {ε α : Type} (P : ε → Prop) (x : Op ε α) : Prop :=
  ∀ w e v, x.runIn w = (.error e, v) → P e

namespace Op.FailsOnly

variable {ε δ α β : Type} {P Q : ε → Prop} {x : Op ε α}

theorem mono (h : ∀ e, P e → Q e) (hx : x.FailsOnly P) : x.FailsOnly Q :=
  fun w e v hr => h e (hx w e v hr)

theorem pure (a : α) : Op.FailsOnly P (pure a : Op ε α) := by
  intro w e v h
  cases h

theorem throw {e : ε} (h : P e) : Op.FailsOnly P (throw e : Op ε α) := by
  intro w f v hr
  cases hr
  exact h

theorem ofExcept {r : Except ε α} (h : ∀ e, r = .error e → P e) : (Op.ofExcept r).FailsOnly P := by
  intro w e v hr
  rw [Op.ofExcept_runIn] at hr
  exact h e (congrArg Prod.fst hr)

theorem check {f : World → Except ε α} (h : ∀ w e, f w = .error e → P e) :
    (Op.check f).FailsOnly P := by
  intro w e v hr
  rw [Op.check_runIn] at hr
  exact h w e (congrArg Prod.fst hr)

theorem read (f : World → α) : (Op.read f : Op ε α).FailsOnly P := by
  intro w e v h
  cases h

theorem change (f : World → World) : (Op.change f : Op ε Unit).FailsOnly P := by
  intro w e v h
  cases h

theorem make (f : World → α × World) : (Op.make f : Op ε α).FailsOnly P := by
  intro w e v h
  cases h

theorem attempt (y : Op δ α) : (y.attempt : Op ε (Except δ α)).FailsOnly P := by
  intro w e v h
  cases h

/-- Errors of a collaborator are of the kind that they are seen as. -/
theorem mapError {f : δ → ε} (h : ∀ e, P (f e)) (y : Op δ α) : (y.mapError f).FailsOnly P := by
  intro w e v hr
  rw [Op.mapError_runIn] at hr
  rcases hy : y.runIn w with ⟨e' | a, u⟩
  · rw [hy] at hr
    cases hr
    exact h e'
  · rw [hy] at hr
    cases hr

theorem bind {f : α → Op ε β} (hx : x.FailsOnly P) (hf : ∀ a, (f a).FailsOnly P) :
    (x >>= f).FailsOnly P := by
  intro w e v h
  rw [Op.bind_runIn] at h
  rcases hr : x.runIn w with ⟨e' | a, u⟩
  · rw [hr] at h
    cases h
    exact hx w e v hr
  · rw [hr] at h
    exact hf a u e v h

theorem onError {f : ε → World → World} (hx : x.FailsOnly P) : (x.onError f).FailsOnly P := by
  intro w e v h
  rw [Op.onError_runIn] at h
  rcases hr : x.runIn w with ⟨e' | a, u⟩
  · rw [hr] at h
    cases h
    exact hx w e u hr
  · rw [hr] at h
    cases h

theorem ite {p : Prop} [Decidable p] {y : Op ε α} (hx : x.FailsOnly P) (hy : y.FailsOnly P) :
    (if p then x else y).FailsOnly P := by
  split
  · exact hx
  · exact hy

theorem forM {f : α → Op ε Unit} {l : List α} (hf : ∀ a, (f a).FailsOnly P) :
    (l.forM f).FailsOnly P := by
  induction l with
  | nil => exact pure ()
  | cons a l ih =>
    change (f a >>= fun _ => l.forM f).FailsOnly P
    exact (hf a).bind fun _ => ih

theorem forM_option {f : α → Op ε Unit} {o : Option α} (hf : ∀ a, (f a).FailsOnly P) :
    (o.forM f).FailsOnly P := by
  cases o with
  | none => exact pure ()
  | some a => exact hf a

theorem foldlM {f : β → α → Op ε β} {l : List α} {b : β} (hf : ∀ b a, (f b a).FailsOnly P) :
    (l.foldlM f b).FailsOnly P := by
  induction l generalizing b with
  | nil => exact pure b
  | cons a l ih =>
    rw [List.foldlM_cons]
    exact (hf b a).bind fun _ => ih

end Op.FailsOnly

/-! ## Errors -/

/-- Whether a fault is only for open elements that do not hold what they should. -/
def StructureFault.isInternal : StructureFault → Bool
  | .instanceWithoutObject | .propertyWithoutObject _ | .attachedWithoutOwner _ |
    .invalidAttached _ | .listenersWithoutParent | .listenersWithoutObject | .noListenerList _ _ |
    .attachedWithoutObject _ => true
  | _ => false

/-- Whether a fault is for an include beyond the greatest depth. -/
def StructureFault.isTooDeep : StructureFault → Bool
  | .tooDeep _ _ => true
  | _ => false

/-- Whether a fault is neither internal nor one of depth. -/
def StructureFault.isOrdinary (f : StructureFault) : Bool := !f.isInternal && !f.isTooDeep

/-- Whether an error is an ordinary fault, or comes of the text of a document or from a
collaborator. -/
def LoadError.IsOrdinary : LoadError → Prop
  | .structural f _ => f.isOrdinary = true
  | .included _ _ => False
  | _ => True

theorem LoadError.IsOrdinary.wrappers {e : LoadError} (h : e.IsOrdinary) : e.wrappers = [] := by
  cases e with
  | included => cases h
  | _ => rfl

theorem LoadError.IsOrdinary.rootCause {e : LoadError} (h : e.IsOrdinary) : e.rootCause = e := by
  cases e with
  | included => cases h
  | _ => rfl

/-- Whether an operation fails in the ordinary way only. -/
abbrev Op.IsOrdinary {α : Type} (x : Op LoadError α) : Prop := x.FailsOnly LoadError.IsOrdinary

open Op (FailsOnly)

theorem LoadError.isOrdinary_ofBinding (e : BindingError) : (ofBinding e).IsOrdinary := by
  cases e <;> trivial

theorem isOrdinary_failAt {α : Type} (at_ : Location) {f : StructureFault}
    (h : f.isOrdinary = true) : (failAt at_ f : Op LoadError α).IsOrdinary := .throw h

theorem isOrdinary_orFail {α : Type} (at_ : Location) {f : StructureFault} (o : Option α)
    (h : f.isOrdinary = true) : (orFail at_ f o).IsOrdinary := by
  cases o with
  | none => exact isOrdinary_failAt _ h
  | some a => exact .pure a

theorem isOrdinary_require (at_ : Location) {f : StructureFault} (p : Bool)
    (h : f.isOrdinary = true) : (require at_ f p).IsOrdinary :=
  .ite (.pure ()) (isOrdinary_failAt _ h)

theorem isOrdinary_objectOr (at_ : Location) {f : StructureFault} (v : Value)
    (h : f.isOrdinary = true) : (objectOr at_ f v).IsOrdinary := isOrdinary_orFail _ _ h

/-! ## Attributes -/

theorem AttributeForm.isOrdinary_of_read {raw : String} {f : StructureFault}
    (h : AttributeForm.read raw = .error f) : f.isOrdinary = true := by
  have after {s : Char} {empty : StructureFault} {form : List Char → AttributeForm} {r : List Char}
      (he : empty.isOrdinary = true) (h : readAfter s empty form r = .error f) :
      f.isOrdinary = true := by
    unfold readAfter at h
    split at h
    · cases h
      exact he
    · split at h <;> cases h
  have plain {r : List Char} (h : readPlain r = .error f) : f.isOrdinary = true := by
    unfold readPlain at h
    split at h
    · cases h
    · split at h
      · exact after rfl h
      · split at h
        · exact after rfl h
        · split at h
          · exact after rfl h
          · cases h
  unfold AttributeForm.read at h
  split at h
  · split at h
    · cases h
      rfl
    · cases h
  · exact plain h

namespace DocumentContext

variable (c : DocumentContext)

theorem isOrdinary_resolveForm (form : AttributeForm) : (c.resolveForm form).IsOrdinary := by
  cases form with
  | literal s => exact .pure _
  | binding expression => exact .pure _
  | location relative =>
    simp only [resolveForm]
    split
    · exact .throw trivial
    · split
      · exact .pure _
      · exact .throw trivial
  | resource key =>
    refine .bind (.make _) fun v => ?_
    cases v with
    | some v => exact .pure _
    | none => exact .bind (.change _) fun _ => .pure _
  | null => exact .pure _
  | reference path => exact .bind (.mapError (fun _ => trivial) _) fun _ => .pure _

theorem isOrdinary_resolveAttribute (raw : String) (at_ : Location) :
    (c.resolveAttribute raw at_).IsOrdinary := by
  refine .bind ?_ c.isOrdinary_resolveForm
  intro w e v h
  cases hr : AttributeForm.read raw with
  | error f =>
    rw [hr] at h
    cases h
    exact AttributeForm.isOrdinary_of_read hr
  | ok form =>
    rw [hr] at h
    cases h

end DocumentContext

/-! ## Includes -/

section

variable (l : Loader) (c : DocumentContext)

theorem isOrdinary_includeSource (src : String) : (includeSource c src).IsOrdinary := by
  unfold includeSource
  split
  · refine .ite (.ite (.pure _) ?_) (.pure _)
    exact .bind (.mapError (fun _ => trivial) _) fun v => .read _
  · exact .pure _

theorem isOrdinary_includeBundle (e : Element) : (includeBundle l c e).IsOrdinary := by
  unfold includeBundle
  split
  · exact .pure _
  · split
    · exact isOrdinary_failAt _ rfl
    · exact .bind (.mapError (fun _ => trivial) _) fun _ => .pure _

theorem isOrdinary_includeCharset (e : Element) : (includeCharset l e).IsOrdinary := by
  unfold includeCharset
  split
  · exact .pure _
  · split
    · exact .pure _
    · exact .throw trivial

theorem isOrdinary_includeTable (e : Element) : (includeTable c e).IsOrdinary :=
  .ite (.pure _) (.make _)

variable {l c}

theorem Loader.isOrdinary_of_sourceUrl {src : String} {e : LoadError}
    (h : l.sourceUrl c src = .error e) : e.IsOrdinary := by
  unfold Loader.sourceUrl at h
  dsimp only at h
  split at h
  · split at h
    · cases h
    · cases h
      trivial
  · split at h
    · split at h
      · cases h
      · cases h
        trivial
    · cases h
      trivial

theorem Loader.isOrdinary_of_readText {u : Url} {x : Encoding} {e : LoadError}
    (h : l.readText u x = .error e) : e.IsOrdinary := by
  unfold Loader.readText at h
  split at h
  · cases h
    trivial
  · split at h
    · cases h
    · cases h
      trivial

theorem Loader.isOrdinary_of_engineNamed {language : String} {e : LoadError}
    (h : l.engineNamed language = .error e) : e.IsOrdinary := by
  unfold Loader.engineNamed at h
  split at h
  · cases h
  · cases h
    trivial

theorem Loader.isOrdinary_of_engineFor {extension : String} {e : LoadError}
    (h : l.engineFor extension = .error e) : e.IsOrdinary := by
  unfold Loader.engineFor at h
  split at h
  · cases h
  · cases h
    trivial

/-- What asking for an included document fails with besides ordinary errors: nothing may be included
that deep. -/
def IsBeyond {α : Type} (l : Loader) (nested : Option α) (e : LoadError) : Prop :=
  e.IsOrdinary ∨ nested = none ∧ ∃ src at_, e = .structural (.tooDeep src l.maxDepth) at_

theorem failsOnly_prepareInclusion {α : Type} (nested : Option α) (d : Draft) (e : Element) :
    (prepareInclusion l c nested d e).FailsOnly (IsBeyond l nested) := by
  have ordinary {β : Type} {x : Op LoadError β} (hx : x.IsOrdinary) :
      x.FailsOnly (IsBeyond l nested) := hx.mono fun _ => .inl
  unfold prepareInclusion
  refine .bind (ordinary (isOrdinary_orFail _ _ rfl)) fun src => ?_
  refine .bind (ordinary (isOrdinary_includeSource c src)) fun src => .bind ?depth fun nested => ?_
  case depth =>
    cases nested with
    | none => exact .throw (.inr ⟨rfl, src, _, rfl⟩)
    | some n => exact .pure n
  refine .bind (ordinary (isOrdinary_includeBundle l c e)) fun bundle => ?_
  refine .bind (ordinary (isOrdinary_includeCharset l e)) fun charset => ?_
  refine .bind (ordinary (isOrdinary_includeTable c e)) fun t => ?_
  refine .bind (ordinary (.ofExcept fun _ => Loader.isOrdinary_of_sourceUrl)) fun u => ?_
  exact .bind (.change _) fun _ => .pure _

end

/-! ## Starts of elements -/

theorem isOrdinary_classifyProperty (stack : List Element) (name : String) (at_ : Location) :
    (classifyProperty stack name at_).IsOrdinary := by
  unfold classifyProperty
  refine .bind (isOrdinary_orFail _ _ rfl) fun parent => ?_
  refine .bind (isOrdinary_objectOr _ _ rfl) fun o => .bind (.read _) fun x => .ite (.pure _) ?_
  split
  · exact isOrdinary_failAt _ rfl
  · exact .pure _
  · refine .bind (.mapError (fun _ => trivial) _) fun v => ?_
    exact .bind (isOrdinary_require _ _ rfl) fun _ => .pure _
  · exact .pure _

theorem isOrdinary_classify (l : Loader) (stack : List Element) (tag : Xml.StartTag)
    (at_ : Location) : (classify l stack tag at_).IsOrdinary := by
  unfold classify
  refine .ite ?control ?_
  case control =>
    refine .bind (isOrdinary_require _ _ rfl) fun _ => ?_
    exact .bind (isOrdinary_orFail _ _ rfl) fun _ => .pure _
  split
  · refine .bind (isOrdinary_orFail _ _ rfl) fun _ => ?_
    exact .bind (isOrdinary_objectOr _ _ rfl) fun _ => .pure _
  · refine .ite ?_ (.ite (isOrdinary_failAt _ rfl) (isOrdinary_classifyProperty _ _ _))
    exact .bind (.mapError (fun _ => trivial) _) fun _ => .bind (.change _) fun _ => .pure _

theorem isOrdinary_checkId (c : DocumentContext) (kind : ElementKind) (id : String)
    (at_ : Location) : (checkId c kind id at_).IsOrdinary := by
  refine .bind (isOrdinary_require _ _ rfl) fun _ => .bind (.check fun w e h => ?_) fun _ =>
    isOrdinary_require _ _ rfl
  split at h
  · cases h
    trivial
  · cases h

theorem Attributed.isOrdinary_add (c : DocumentContext) (uri : Option String) (x : Attributed)
    (a : Xml.MarkupAttribute) : (Attributed.add c uri x a).IsOrdinary := by
  have resolved : (x.addResolved c a).IsOrdinary := by
    refine .bind (c.isOrdinary_resolveAttribute _ _) fun v => ?_
    cases v with
    | resolved v => exact .pure _
    | binding expression => exact .pure _
  unfold Attributed.add
  refine .ite ?id (.ite (.pure _) ?_)
  case id =>
    refine .bind (isOrdinary_require _ _ rfl) fun _ => ?_
    exact .bind (isOrdinary_checkId _ _ _ _) fun _ => .pure _
  split
  · exact .bind (isOrdinary_require _ _ rfl) fun _ => .pure _
  · split
    · exact .pure _
    · exact isOrdinary_failAt _ rfl
    · exact isOrdinary_failAt _ rfl
    · exact isOrdinary_failAt _ rfl
    · exact isOrdinary_failAt _ rfl
    · exact resolved
    · exact resolved
    · exact resolved
    · exact resolved

theorem isOrdinary_resolveReference (c : DocumentContext) (e : Element) :
    (resolveReference c e).IsOrdinary := by
  refine .bind (isOrdinary_orFail _ _ rfl) fun id => .check fun w f h => ?_
  split at h
  · cases h
  · cases h
    trivial

theorem Draft.isOrdinary_push (d : Draft) (x : Attributed) (v : Value) (parented : List ObjectId) :
    (d.push x v parented).IsOrdinary := by
  refine .bind ?_ fun _ => .pure _
  refine .ite (.pure _) (.bind (isOrdinary_require _ _ rfl) fun _ => ?_)
  exact .bind (isOrdinary_objectOr _ _ rfl) fun _ => .pure _

section

variable (l : Loader) (c : DocumentContext)

theorem failsOnly_startElement {α : Type} (nested : Option α) (d : Draft) (tag : Xml.StartTag)
    (at_ : Location) : (startElement l c nested d tag at_).FailsOnly (IsBeyond l nested) := by
  have ordinary {β : Type} {x : Op LoadError β} (hx : x.IsOrdinary) :
      x.FailsOnly (IsBeyond l nested) := hx.mono fun _ => .inl
  unfold startElement
  refine .bind (ordinary (isOrdinary_classify _ _ _ _)) fun found => ?_
  refine .bind (ordinary (.foldlM fun x a => Attributed.isOrdinary_add _ _ x a)) fun x => ?_
  split
  · exact .bind (failsOnly_prepareInclusion nested d x.element) fun _ => .pure _
  · exact .bind (ordinary (isOrdinary_resolveReference c x.element)) fun _ => .pure _
  · exact .pure _

/-! ## Composition and text -/

theorem isOrdinary_addChild (h : Held) (o : ObjectId) (v : Value) (at_ : Location) :
    (addChild l h o v at_).IsOrdinary := by
  unfold addChild
  refine .bind (.read _) fun x => ?_
  split
  · refine .bind (.mapError (fun _ => trivial) _) fun current => .bind (.read _) fun list => ?_
    cases list with
    | some p => exact .change _
    | none => exact .mapError (fun _ => trivial) _
  · exact .ite (.change _) (isOrdinary_failAt _ rfl)

theorem isOrdinary_of_receiver? {stack : List Element} {at_ : Location} {e : LoadError}
    (h : receiver? stack at_ = .error e) : e.IsOrdinary := by
  unfold receiver? at h
  split at h
  · cases h
  · split at h
    · cases h
    · split at h
      · cases h
      · split at h
        · cases h
        · cases h
        · cases h
          rfl

theorem isOrdinary_compose (d : Draft) (e : Element) : (compose l c d e).IsOrdinary := by
  unfold compose
  refine .bind (.ofExcept fun _ => isOrdinary_of_receiver?) fun r => ?_
  cases r with
  | none => exact .pure _
  | some r =>
    refine .bind ?_ fun parented => ?_
    · unfold adopt
      split
      · refine .bind (.read _) fun _ => .bind (isOrdinary_require _ _ rfl) fun _ => .pure _
      · exact .pure _
    · cases r with
      | element => exact .pure _
      | object o => exact .bind (isOrdinary_addChild l _ _ _ _) fun _ => .pure _

theorem isOrdinary_applyAttributes (h : Held) (e : Element) :
    (applyAttributes l h e).IsOrdinary := by
  refine .ite (.pure _) (.bind (isOrdinary_objectOr _ _ rfl) fun o => .forM fun p => ?_)
  exact .mapError (fun _ => trivial) _

/-- Text is refused in the ordinary way where instances hold objects. -/
theorem Draft.isOrdinary_addText {d : Draft} (text : String) (at_ : Location)
    (h : ∀ e outer, d.stack = e :: outer → e.kind = .instanceOf → e.value.object?.isSome = true) :
    (d.addText l c text at_).IsOrdinary := by
  unfold Draft.addText
  refine .ite (.pure _) ?_
  split
  · exact isOrdinary_failAt _ rfl
  · next e outer hs =>
    split
    · next hk =>
      obtain ⟨o, ho⟩ := Option.isSome_iff_exists.1 (h e outer hs hk)
      unfold objectOr
      rw [ho, orFail_some]
      refine .bind (.pure _) fun o => .bind (.read _) fun x => ?_
      exact .bind (isOrdinary_require _ _ rfl) fun _ =>
        .bind (isOrdinary_addChild l _ _ _ _) fun _ => .pure _
    · exact .pure _
    · exact .pure _
    · exact .pure _
    · exact .pure _
    · exact isOrdinary_failAt _ rfl

theorem Draft.isOrdinary_addInstruction (d : Draft) (target data : String) (at_ : Location) :
    (d.addInstruction target data at_).IsOrdinary := by
  unfold Draft.addInstruction
  refine .ite (.bind (.change _) fun _ => .pure _) ?_
  dsimp only
  exact .ite (.bind (isOrdinary_failAt _ rfl) fun _ => .pure _) (.pure _)

/-! ## Scripts and listeners -/

theorem isOrdinary_evaluate (h : Held) (engine : EngineId) (source origin : String) :
    (evaluate l c h engine source origin).IsOrdinary := by
  unfold evaluate
  refine .bind (.attempt _) fun r => ?_
  cases r with
  | ok _ => exact .pure _
  | error _ => exact .bind (.change _) fun _ => .bind (.change _) fun _ => .pure _

theorem isOrdinary_runScript (h : Held) (language : String) (e : Element) :
    (runScript l c h language e).IsOrdinary := by
  unfold runScript
  refine .bind (.forM_option fun src => ?_) fun _ => .forM_option fun source => ?_
  · unfold runSource
    refine .bind (isOrdinary_orFail _ _ rfl) fun _ => ?_
    refine .bind (.ofExcept fun _ => Loader.isOrdinary_of_engineFor) fun _ => ?_
    refine .bind (.ofExcept fun _ => Loader.isOrdinary_of_sourceUrl) fun _ => ?_
    refine .bind (.ofExcept fun _ => Loader.isOrdinary_of_readText) fun _ => ?_
    exact .bind (isOrdinary_evaluate l c _ _ _ _) fun _ => .pure _
  · unfold runText
    refine .bind (.ofExcept fun _ => Loader.isOrdinary_of_engineNamed) fun _ => ?_
    exact .bind (isOrdinary_evaluate l c _ _ _ _) fun _ => .pure _

theorem isOrdinary_applyAttachedAttribute (h : Held) (language : String) (o : ObjectId)
    (at_ : Location) (a : AttachedAttribute) :
    (applyAttachedAttribute l c h language o at_ a).IsOrdinary := by
  unfold applyAttachedAttribute
  refine .bind (.read _) fun list => ?_
  cases list with
  | some list =>
    refine .bind (isOrdinary_require _ _ rfl) fun _ => ?_
    refine .bind (.ofExcept fun _ => Loader.isOrdinary_of_engineNamed) fun _ => ?_
    exact .bind (.change _) fun _ => .change _
  | none =>
    refine .bind (c.isOrdinary_resolveAttribute _ _) fun v => ?_
    cases v with
    | binding _ => exact isOrdinary_failAt _ rfl
    | resolved v =>
      refine .bind (.mapError (fun _ => trivial) _) fun _ => ?_
      exact .bind (.read _) fun _ => .change _

/-- What is attached to an element is refused in the ordinary way if the element holds an object. -/
theorem isOrdinary_applyAttachedAttributes (h : Held) (language : String) {e : Element}
    (he : e.attached ≠ [] → e.value.object?.isSome = true) :
    (applyAttachedAttributes l c h language e).IsOrdinary := by
  unfold applyAttachedAttributes
  cases ha : e.attached with
  | nil => exact .pure _
  | cons a r =>
    obtain ⟨o, ho⟩ := Option.isSome_iff_exists.1 (he (by rw [ha]; exact List.cons_ne_nil a r))
    unfold objectOr
    rw [ho, orFail_some]
    exact .ite (.pure _) (.bind (.pure _) fun o => .forM fun a =>
      isOrdinary_applyAttachedAttribute l c _ _ _ _ _)

theorem isOrdinary_applyAttachedElement (h : Held) {stack : List Element} {e : Element}
    {owner property : String} (hs : (owner? stack).isSome = true)
    (name : splitQualified? e.name = some (owner, property)) :
    (applyAttachedElement l h stack e).IsOrdinary := by
  obtain ⟨o, ho⟩ := Option.isSome_iff_exists.1 hs
  unfold applyAttachedElement
  rw [ho, name, orFail_some, orFail_some]
  exact .bind (.pure _) fun _ => .bind (.pure _) fun _ => .mapError (fun _ => trivial) _

variable {l c}

/-- A listener element inside an object fails in the ordinary way, unless the object has no listener
list of its name. -/
theorem installAdapter_error {h : Held} {language : String} {stack : List Element} {e : Element}
    {o : ObjectId} {w v : World} {f : LoadError} (ho : owner? stack = some o)
    (hr : (installAdapter l c h language stack e).runIn w = (.error f, v)) :
    f.IsOrdinary ∨ (w.object o).listeners? e.name = none ∧
      f = .structural (.noListenerList e.name (w.object o).typeName) e.location := by
  cases hs : stack with
  | nil =>
    rw [hs] at ho
    cases ho
  | cons parent outer =>
    have hv : parent.value.object? = some o := by rwa [hs] at ho
    unfold installAdapter objectOr at hr
    rw [hs, List.head?_cons, orFail_some, pure_bind, hv, orFail_some, pure_bind,
      Op.bind_runIn_of_ok (Op.read_runIn _ _)] at hr
    cases hl : (w.object o).listeners? e.name with
    | none =>
      rw [hl, orFail_none, Op.bind_runIn_of_error (failAt_runIn _ _ _)] at hr
      cases hr
      exact .inr ⟨rfl, rfl⟩
    | some list =>
      left
      rw [hl, orFail_some, pure_bind] at hr
      refine FailsOnly.bind ?_ (fun _ => ?_) w f v hr
      · exact .forM fun _ => isOrdinary_require _ _ rfl
      · refine .bind (.ofExcept fun _ => Loader.isOrdinary_of_engineNamed) fun engine => ?_
        refine .bind ?_ fun evaluated => .ite ?_ (.pure _)
        · cases e.text with
          | none => exact .pure _
          | some source => exact isOrdinary_evaluate l c _ _ _ _
        · refine .bind (.read _) fun functions => .bind (.read _) fun _ => ?_
          exact .bind (.change _) fun _ => .change _

/-! ## Ends of documents -/

theorem isOrdinary_registerId (h : Held) (e : Element) : (registerId l c h e).IsOrdinary := by
  unfold registerId
  split
  · refine .bind (.mapError (fun _ => trivial) _) fun _ => ?_
    split
    · refine .bind (.read _) fun property => ?_
      split
      · exact .mapError (fun _ => trivial) _
      · exact .pure _
    · exact .pure _
  · exact .pure _

theorem isOrdinary_bind (h : Held) (language : String) (p : PendingBinding) :
    (bind l c h language p).IsOrdinary := by
  have defined {α : Type} (path : String) (o : Option α) : (orUndefined path o).IsOrdinary := by
    cases o with
    | none => exact .throw trivial
    | some a => exact .pure a
  unfold Bxml.bind
  refine .bind (isOrdinary_require _ _ rfl) fun _ => .bind ?mapping fun mapping => ?_
  case mapping =>
    unfold mappingNamed
    split
    · exact .bind (.ofExcept fun _ => Loader.isOrdinary_of_engineNamed) fun _ => .pure _
    · exact .pure _
  dsimp only
  split
  · exact .pure _
  · refine .ite ?id (.bind ?source fun o => ?connect)
    case id =>
      refine .bind (.mapError (fun _ => trivial) _) fun v => ?_
      refine .bind (.mapError LoadError.isOrdinary_ofBinding _) fun v => ?_
      exact .mapError (fun _ => trivial) _
    case source =>
      refine .bind (.mapError (fun _ => trivial) _) fun v => .bind (defined _ _) fun o => ?_
      exact .bind (.read _) fun _ => defined _ _
    case connect =>
      refine .bind (.mapError LoadError.isOrdinary_ofBinding _) fun _ => ?_
      refine .bind (.read _) fun _ => .bind (.read _) fun publishes => .ite ?_ (.change _)
      exact .bind (.read _) fun _ => .bind (.change _) fun _ => .change _

theorem isOrdinary_applyBindings (h : Held) (language : String) (ps : List PendingBinding) :
    (applyBindings l c h language ps).IsOrdinary := by
  induction ps with
  | nil => exact .pure _
  | cons p ps ih => exact .bind (isOrdinary_bind _ _ _) fun _ => ih

/-- The end of a document fails in the ordinary way. -/
theorem Draft.isOrdinary_complete (es : Xml.Events) (d : Draft) :
    (d.complete l c es).IsOrdinary := by
  unfold Draft.complete
  refine .bind ?fault fun _ => .bind ?finish fun root => .bind ?bindings fun _ => ?_
  case fault =>
    unfold reportFault
    split
    · exact .onError (.throw trivial)
    · exact .pure _
  case finish =>
    unfold Draft.finish
    split
    · exact isOrdinary_failAt _ rfl
    · split
      · exact .pure _
      · exact isOrdinary_failAt _ rfl
  case bindings => exact .onError (isOrdinary_applyBindings _ _ _)
  refine .bind ?root fun _ => .bind (.read _) fun _ => .bind (.change _) fun _ => .pure _
  case root =>
    unfold completeRoot
    split
    · refine .bind (.read _) fun hook => ?_
      split
      · exact .mapError (fun _ => trivial) _
      · exact .pure _
    · exact .pure _

end

end Bxml
