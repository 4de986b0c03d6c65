import Bxml.Load.Document
import Bxml.Proofs.World.Lasting

/-!
# What lasts during a load

Whatever a load does to a world respects every lasting relation, provided that the engines, the
hooks and the factory do: all operations are listed here in the order in which they are defined.
Only two are missing, the registration of an id and the load of an included document.

The order of the lemmas is that of the modules from `Load/Attribute.lean` to `Load/Document.lean`,
one for each operation, named after it; `Loader.Keeps` is what is asked of the world outside.  The
two operations that are missing here are in `Load/Enduring.lean`.  `Loader.plain_keeps` meets the
condition for documents that are only looked at.
-/

namespace Bxml

open World (Lasting)

variable {R : World → World → Prop} [Lasting R]

/-! ## Bundles -/

mutual

theorem Json.toValue_lasts : ∀ (j : Json) (w : World), R w (j.toValue w).2
  | .null, w | .bool _, w | .int _, w | .float _, w | .string _, w => Lasting.refl w
  | .array items, w => Lasting.trans (Json.toValues_lasts items w) (Lasting.alloc _ _)
  | .object fields, w => Lasting.trans (Json.toEntries_lasts fields w) (Lasting.alloc _ _)

theorem Json.toValues_lasts : ∀ (js : List Json) (w : World), R w (Json.toValues js w).2
  | [], w => Lasting.refl w
  | j :: r, w => Lasting.trans (Json.toValue_lasts j w) (Json.toValues_lasts r _)

theorem Json.toEntries_lasts :
    ∀ (fs : List (String × Json)) (w : World), R w (Json.toEntries fs w).2
  | [], w => Lasting.refl w
  | (_, j) :: r, w => Lasting.trans (Json.toValue_lasts j w) (Json.toEntries_lasts r _)

end

theorem Bundle.lookup_lasts (b : Bundle) (key : String) (w : World) : R w (b.lookup key w).2 := by
  rw [Bundle.lookup_eq]
  cases b.layers.find? (·.defines key) with
  | none => exact Lasting.refl w
  | some layer =>
    cases layer with
    | map entries => exact Lasting.refl w
    | json fields =>
      simp only [BundleLayer.find?]
      split
      · exact Json.toValue_lasts _ w
      · exact Lasting.refl w

theorem BundleLoader.keeps_load (b : BundleLoader) (name : String) (parent : Option Bundle) :
    (b.load name parent).Keeps R := by
  unfold BundleLoader.load
  refine .bind (.ofExcept _) fun u => .bind (.ofExcept _) fun bytes => .bind (.ofExcept _) fun _ => ?_
  refine .bind (.foldlM fun fields suffix => ?_) fun _ => .pure _
  refine .bind (.ofExcept _) fun u => .ite ?_ (.pure _)
  refine .bind (.log _ _) fun _ => .bind (.ofExcept _) fun bytes => .bind (.ofExcept _) fun _ => ?_
  exact .bind (.forM fun _ => .log _ _) fun _ => .pure _

/-! ## Faults -/

theorem keeps_failAt {α : Type} (at_ : Location) (f : StructureFault) :
    (failAt at_ f : Op LoadError α).Keeps R := .throw _

theorem keeps_orFail {α : Type} (at_ : Location) (f : StructureFault) (o : Option α) :
    (orFail at_ f o).Keeps R := by
  cases o with
  | none => exact keeps_failAt _ _
  | some a => exact .pure a

theorem keeps_require (at_ : Location) (f : StructureFault) (p : Bool) :
    (require at_ f p).Keeps R := .ite (.pure ()) (keeps_failAt _ _)

theorem keeps_objectOr (at_ : Location) (f : StructureFault) (v : Value) :
    (objectOr at_ f v).Keeps R := keeps_orFail _ _ _

/-! ## Attributes -/

theorem DocumentContext.keeps_resolveForm (c : DocumentContext) (form : AttributeForm) :
    (c.resolveForm form).Keeps R := by
  cases form with
  | literal s => exact .pure _
  | binding expression => exact .pure _
  | location relative =>
    simp only [DocumentContext.resolveForm]
    split
    · exact .throw _
    · split
      · exact .pure _
      · exact .throw _
  | resource key =>
    refine .bind (.make fun w => ?_) fun v => ?_
    · cases c.bundle with
      | none => exact Lasting.refl w
      | some b => exact b.lookup_lasts key w
    · cases v with
      | some v => exact .pure _
      | none => exact .bind (.log _ _) fun _ => .pure _
  | null => exact .pure _
  | reference path => exact .bind (.mapError _ (.check _)) fun _ => .pure _

theorem DocumentContext.keeps_resolveAttribute (c : DocumentContext) (raw : String)
    (at_ : Location) : (c.resolveAttribute raw at_).Keeps R :=
  .bind (.mapError _ (.ofExcept _)) c.keeps_resolveForm

/-! ## Inclusions -/

theorem keeps_includeSource (c : DocumentContext) (src : String) :
    (includeSource c src).Keeps R := by
  unfold includeSource
  split
  · refine .ite (.ite (.pure _) ?_) (.pure _)
    exact .bind (.mapError _ (.check _)) fun v => .read _
  · exact .pure _

theorem keeps_includeBundle (l : Loader) (c : DocumentContext) (e : Element) :
    (includeBundle l c e).Keeps R := by
  unfold includeBundle
  split
  · exact .pure _
  · split
    · exact keeps_failAt _ _
    · next b _ => exact .bind (.mapError _ (b.keeps_load _ _)) fun _ => .pure _

theorem keeps_includeCharset (l : Loader) (e : Element) : (includeCharset l e).Keeps R := by
  unfold includeCharset
  split
  · exact .pure _
  · split
    · exact .pure _
    · exact .throw _

theorem keeps_includeTable (c : DocumentContext) (e : Element) : (includeTable c e).Keeps R :=
  .ite (.pure _) (.make fun w => Lasting.allocTable w _)

theorem keeps_prepareInclusion {α : Type} (l : Loader) (c : DocumentContext) (nested : Option α)
    (d : Draft) (e : Element) : (prepareInclusion l c nested d e).Keeps R := by
  unfold prepareInclusion
  refine .bind (keeps_orFail _ _ _) fun src => .bind (keeps_includeSource c src) fun src => ?_
  refine .bind (keeps_orFail _ _ _) fun nested => .bind (keeps_includeBundle l c e) fun bundle => ?_
  refine .bind (keeps_includeCharset l e) fun charset => .bind (keeps_includeTable c e) fun t => ?_
  exact .bind (.ofExcept _) fun u => .bind (.log _ _) fun _ => .pure _

/-! ## What elements stand for -/

theorem keeps_classifyProperty (stack : List Element) (name : String) (at_ : Location) :
    (classifyProperty stack name at_).Keeps R := by
  unfold classifyProperty
  refine .bind (keeps_orFail _ _ _) fun parent => .bind (keeps_objectOr _ _ _) fun o => ?_
  refine .bind (.read _) fun x => .ite (.pure _) ?_
  split
  · exact keeps_failAt _ _
  · exact .pure _
  · exact .bind (.mapError _ (.ofExcept _)) fun v => .bind (keeps_require _ _ _) fun _ => .pure _
  · exact .pure _

theorem keeps_resolveReference (c : DocumentContext) (e : Element) :
    (resolveReference c e).Keeps R :=
  .bind (keeps_orFail _ _ _) fun _ => .check _

theorem Attributed.keeps_add (c : DocumentContext) (uri : Option String) (x : Attributed)
    (a : Xml.MarkupAttribute) : (Attributed.add c uri x a).Keeps R := by
  have keepsResolved : (x.addResolved c a).Keeps R := by
    refine .bind (c.keeps_resolveAttribute _ _) fun v => ?_
    cases v with
    | resolved v => exact .pure _
    | binding expression => exact .pure _
  unfold Attributed.add
  refine .ite ?_ (.ite (.pure _) ?_)
  · refine .bind (keeps_require _ _ _) fun _ => .bind ?_ fun _ => .pure _
    exact .bind (keeps_require _ _ _) fun _ => .bind (.check _) fun _ => keeps_require _ _ _
  · split
    · exact .bind (keeps_require _ _ _) fun _ => .pure _
    · split
      · exact .pure _
      · exact keeps_failAt _ _
      · exact keeps_failAt _ _
      · exact keeps_failAt _ _
      · exact keeps_failAt _ _
      · exact keepsResolved
      · exact keepsResolved
      · exact keepsResolved
      · exact keepsResolved

theorem Draft.keeps_push (d : Draft) (x : Attributed) (v : Value) (parented : List ObjectId) :
    (d.push x v parented).Keeps R := by
  refine .bind ?_ fun _ => .pure _
  refine .ite (.pure _) (.bind (keeps_require _ _ _) fun _ => ?_)
  exact .bind (keeps_objectOr _ _ _) fun _ => .pure _

/-- Whether what is outside of a load respects a relation between a world and a later one. -/
structure Loader.Keeps (R : World → World → Prop) (l : Loader) : Prop where
  host : l.host.Keeps R
  construct (typeName : String) : (l.factory.construct typeName).Keeps R
  attach (h : Held) (owner property : String) (o : ObjectId) (v : Value) :
    (l.factory.attach h owner property o v).Keeps R

namespace Loader.Keeps

variable {l : Loader} (hl : l.Keeps R)

include hl

theorem classify (stack : List Element) (tag : Xml.StartTag) (at_ : Location) :
    (classify l stack tag at_).Keeps R := by
  unfold Bxml.classify
  refine .ite ?_ ?_
  · exact .bind (keeps_require _ _ _) fun _ => .bind (keeps_orFail _ _ _) fun _ => .pure _
  · split
    · refine .bind (keeps_orFail _ _ _) fun _ => .bind (keeps_objectOr _ _ _) fun _ => .pure _
    · refine .ite ?_ (.ite (keeps_failAt _ _) (keeps_classifyProperty _ _ _))
      exact .bind (.mapError _ (hl.construct _)) fun _ => .bind (.log _ _) fun _ => .pure _

theorem startElement {α : Type} (c : DocumentContext) (nested : Option α) (d : Draft)
    (tag : Xml.StartTag) (at_ : Location) : (startElement l c nested d tag at_).Keeps R := by
  unfold Bxml.startElement
  refine .bind (hl.classify _ _ _) fun found => ?_
  refine .bind (.foldlM (Attributed.keeps_add _ _)) fun x => ?_
  split
  · exact .bind (keeps_prepareInclusion _ _ _ _ _) fun _ => .pure _
  · exact .bind (keeps_resolveReference _ _) fun _ => .pure _
  · exact .pure _

/-! ## Composition and text -/

theorem addChild (h : Held) (o : ObjectId) (v : Value) (at_ : Location) :
    (addChild l h o v at_).Keeps R := by
  unfold Bxml.addChild
  refine .bind (.read _) fun x => ?_
  split
  · refine .bind (.mapError _ (.ofExcept _)) fun current => .bind (.read _) fun list => ?_
    cases list with
    | some p => exact .change fun w => Lasting.append w p v
    | none => exact .mapError _ (hl.host.setProperty _ _ _ _)
  · exact .ite (.change fun w => Lasting.append w o v) (keeps_failAt _ _)

omit hl in
theorem adopt (v : Value) (at_ : Location) (parented : List ObjectId) :
    (Bxml.adopt v at_ parented).Keeps R := by
  unfold Bxml.adopt
  split
  · exact .bind (.typeName _) fun _ => .bind (keeps_require _ _ _) fun _ => .pure _
  · exact .pure _

theorem compose (c : DocumentContext) (d : Draft) (e : Element) : (compose l c d e).Keeps R := by
  unfold Bxml.compose
  refine .bind (.ofExcept _) fun r => ?_
  cases r with
  | none => exact .pure _
  | some r =>
    refine .bind (adopt _ _ _) fun parented => ?_
    cases r with
    | element => exact .pure _
    | object o => exact .bind (hl.addChild _ _ _ _) fun _ => .pure _

theorem applyAttributes (h : Held) (e : Element) : (applyAttributes l h e).Keeps R := by
  refine .ite (.pure _) (.bind (keeps_objectOr _ _ _) fun o => .forM fun p => ?_)
  exact .mapError _ (hl.host.setProperty _ _ _ _)

theorem addText (c : DocumentContext) (d : Draft) (text : String) (at_ : Location) :
    (d.addText l c text at_).Keeps R := by
  unfold Draft.addText
  refine .ite (.pure _) ?_
  split
  · exact keeps_failAt _ _
  · split
    · refine .bind (keeps_objectOr _ _ _) fun o => .bind (.read _) fun x => ?_
      exact .bind (keeps_require _ _ _) fun _ => .bind (hl.addChild _ _ _ _) fun _ => .pure _
    · exact .pure _
    · exact .pure _
    · exact .pure _
    · exact .pure _
    · exact keeps_failAt _ _

omit hl in
theorem addInstruction (d : Draft) (target data : String) (at_ : Location) :
    (d.addInstruction target data at_).Keeps R := by
  refine .ite (.bind (.log _ _) fun _ => .pure _) ?_
  dsimp only
  exact .ite (.bind (keeps_failAt _ _) fun _ => .pure _) (.pure _)

/-! ## Scripts and listeners -/

theorem evaluate (c : DocumentContext) (h : Held) (engine : EngineId) (source origin : String) :
    (evaluate l c h engine source origin).Keeps R := by
  refine .bind (.attempt (hl.host.eval _ _ _ _)) fun r => ?_
  cases r with
  | ok _ => exact .pure _
  | error _ => exact .bind (.log _ _) fun _ => .bind (.log _ _) fun _ => .pure _

theorem runScript (c : DocumentContext) (h : Held) (language : String) (e : Element) :
    (runScript l c h language e).Keeps R := by
  refine .bind (.forM_option fun src => ?_) fun _ => .forM_option fun source => ?_
  · refine .bind (keeps_orFail _ _ _) fun _ => .bind (.ofExcept _) fun _ => ?_
    refine .bind (.ofExcept _) fun _ => .bind (.ofExcept _) fun _ => ?_
    exact .bind (hl.evaluate _ _ _ _ _) fun _ => .pure _
  · exact .bind (.ofExcept _) fun _ => .bind (hl.evaluate _ _ _ _ _) fun _ => .pure _

theorem applyAttachedAttribute (c : DocumentContext) (h : Held) (language : String) (o : ObjectId)
    (at_ : Location) (a : AttachedAttribute) :
    (applyAttachedAttribute l c h language o at_ a).Keeps R := by
  refine .bind (.read _) fun list => ?_
  cases list with
  | some list =>
    refine .bind (keeps_require _ _ _) fun _ => .bind (.ofExcept _) fun _ => ?_
    exact .bind (.log _ _) fun _ => .change fun w => Lasting.addListener w _ _ _
  | none =>
    refine .bind (c.keeps_resolveAttribute _ _) fun v => ?_
    cases v with
    | binding _ => exact keeps_failAt _ _
    | resolved v =>
      refine .bind (.mapError _ (hl.attach _ _ _ _ _)) fun _ => ?_
      exact .bind (.typeName _) fun _ => .log _ _

theorem applyAttachedAttributes (c : DocumentContext) (h : Held) (language : String) (e : Element) :
    (applyAttachedAttributes l c h language e).Keeps R :=
  .ite (.pure _) (.bind (keeps_objectOr _ _ _) fun _ =>
    .forM fun _ => hl.applyAttachedAttribute _ _ _ _ _ _)

theorem applyAttachedElement (h : Held) (stack : List Element) (e : Element) :
    (applyAttachedElement l h stack e).Keeps R :=
  .bind (keeps_orFail _ _ _) fun _ => .bind (keeps_orFail _ _ _) fun _ =>
    .mapError _ (hl.attach _ _ _ _ _)

theorem installAdapter (c : DocumentContext) (h : Held) (language : String) (stack : List Element)
    (e : Element) : (installAdapter l c h language stack e).Keeps R := by
  refine .bind (keeps_orFail _ _ _) fun parent => .bind (keeps_objectOr _ _ _) fun o => ?_
  refine .bind (.read _) fun x => .bind (keeps_orFail _ _ _) fun list => ?_
  refine .bind (.forM fun _ => keeps_require _ _ _) fun _ => .bind (.ofExcept _) fun engine => ?_
  refine .bind ?_ fun evaluated => .ite ?_ (.pure _)
  · cases e.text with
    | none => exact .pure _
    | some source => exact hl.evaluate _ _ _ _ _
  · refine .bind (.read _) fun functions => .bind (.typeName _) fun _ => .bind (.log _ _) fun _ => ?_
    exact .change fun w => Lasting.addListener w _ _ _

/-! ## Ends of elements and of documents -/

theorem closeAs (c : DocumentContext) (d : Draft) (e : Element) : (closeAs l c d e).Keeps R := by
  unfold Bxml.closeAs
  cases e.kind with
  | instanceOf | inclusion | reference =>
    refine .bind (hl.applyAttributes _ _) fun _ => .bind (hl.compose _ _ _) fun d' => ?_
    exact .bind (hl.applyAttachedAttributes _ _ _ _) fun _ => .pure _
  | readOnly => exact .bind (hl.applyAttributes _ _) fun _ => .pure _
  | writable =>
    refine .bind (keeps_orFail _ _ _) fun o => ?_
    exact .bind (.mapError _ (hl.host.setProperty _ _ _ _)) fun _ => .pure _
  | attached => exact .bind (hl.applyAttachedElement _ _ _) fun _ => .pure _
  | listeners => exact .bind (hl.installAdapter _ _ _ _ _) fun _ => .pure _
  | script => exact .bind (hl.runScript _ _ _ _) fun _ => .pure _
  | definition => exact .pure _

omit hl in
theorem bindingSource (c : DocumentContext) (objectPath : List String) (key path : String) :
    (bindingSource c objectPath key path).Keeps R := by
  have defined {α : Type} (path : String) (o : Option α) : (orUndefined path o).Keeps R := by
    cases o with
    | none => exact .throw _
    | some a => exact .pure a
  refine .bind (.mapError _ (.check _)) fun v => .bind (defined _ _) fun o => ?_
  exact .bind (.read _) fun _ => defined _ _

theorem connect (h : Held) (b : Bxml.Binding) (path : String) : (connect l h b path).Keeps R := by
  refine .bind (.mapError _ (hl.host.copyAlong hl.host.setProperty _ _)) fun _ => ?_
  refine .bind (.typeName _) fun _ => .bind (.read _) fun publishes => .ite ?_ (.log _ _)
  refine .bind (.typeName _) fun _ => .bind (.log _ _) fun _ => ?_
  exact .change fun w => Lasting.subscribe w _ _ _

omit hl in
theorem mappingNamed (language : String) (function : Option String) :
    (mappingNamed l language function).Keeps R := by
  unfold Bxml.mappingNamed
  split
  · exact .bind (.ofExcept _) fun _ => .pure _
  · exact .pure _

theorem bind (c : DocumentContext) (h : Held) (language : String) (p : PendingBinding) :
    (bind l c h language p).Keeps R := by
  unfold Bxml.bind
  refine .bind (keeps_require _ _ _) fun _ => .bind (mappingNamed _ _) fun mapping => ?_
  dsimp only
  split
  · exact .pure _
  · refine .ite ?_ (.bind (bindingSource _ _ _ _) fun _ => hl.connect _ _ _)
    refine .bind (.mapError _ (.check _)) fun v => .bind (.mapError _ (hl.host.mapped _ _ _)) ?_
    exact fun v => .mapError _ (hl.host.setProperty _ _ _ _)

theorem applyBindings (c : DocumentContext) (h : Held) (language : String)
    (ps : List PendingBinding) : (applyBindings l c h language ps).Keeps R := by
  induction ps with
  | nil => exact .pure _
  | cons p ps ih => exact .bind (hl.bind _ _ _ _) fun _ => ih

omit hl in
theorem reportFailure_lasts (c : DocumentContext) (at_ : Location) (e : LoadError) (w : World) :
    R w (reportFailure c at_ e w) := Lasting.trans (Lasting.emit _ _) (Lasting.emit _ _)

omit hl in
theorem reportFault (c : DocumentContext) (es : Xml.Events) : (reportFault c es).Keeps R := by
  unfold Bxml.reportFault
  split
  · exact .onError (.throw _) (reportFailure_lasts _ _)
  · exact .pure _

omit hl in
theorem finish (d : Draft) : d.finish.Keeps R := by
  unfold Draft.finish
  split
  · exact keeps_failAt _ _
  · split
    · exact .pure _
    · exact keeps_failAt _ _

theorem completeRoot (c : DocumentContext) (h : Held) (root : Value) :
    (completeRoot l c h root).Keeps R := by
  unfold Bxml.completeRoot
  split
  · refine .bind (.read _) fun hook => ?_
    split
    · exact .mapError _ (hl.host.hook _ _ _ _ _)
    · exact .pure _
  · exact .pure _

/-- What is done when all events of a document are taken. -/
theorem complete (c : DocumentContext) (es : Xml.Events) (d : Draft) :
    (d.complete l c es).Keeps R := by
  refine .bind (reportFault _ _) fun _ => .bind (finish _) fun root => .bind ?bindings fun _ => ?_
  case bindings => exact .onError (hl.applyBindings _ _ _ _) fun _ w => Lasting.emit w _
  refine .bind (hl.completeRoot _ _ _) fun _ => .bind (.read _) fun _ => ?_
  exact .bind (.log _ _) fun _ => .pure _

end Loader.Keeps

/-! ## Plain loaders -/

theorem Host.plain_keeps (language : String) : (Host.plain language).Keeps R where
  function h := by cases h
  evaluator h := by cases h
  hook _ _ _ _ _ := .pure ()

/-- Documents that are only looked at may be read from anywhere. -/
theorem Loader.plain_keeps (provider : ResourceProvider) :
    { Loader.plain with provider := provider }.Keeps R where
  host := Host.plain_keeps _
  construct _ := .make fun w => Lasting.alloc w _
  attach h owner property o v := by
    refine .bind (.read _) fun x => ?_
    split
    · exact .mapError _ ((Host.plain_keeps _).setProperty _ _ _ _)
    · exact .throw _

end Bxml
