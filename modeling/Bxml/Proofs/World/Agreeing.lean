import Bxml.Proofs.Twins.Alike

/-!
# Operations that agree

Two operations agree if they come to the same in worlds that differ at most in what was recorded, and
leave worlds that differ in nothing else.  An operation agrees with itself if it never looks at the
trace.  The lemmas of this file say so of everything in a load that needs neither engines nor type
factories.

* `Op.Agrees` is the relation between operations, and `Op.SameEffect` the weaker one that leaves out
  what they give; a record on either side keeps both (`afterLog`).
* There is one closure lemma for each construct of operations, and then one lemma `agrees_…` for
  each function of a load.
* An access to a world agrees with itself if it does not depend on the trace, `World.retraced`.
-/

namespace Bxml

variable {ε δ α β : Type}

/-- Whether two runs come to the same, apart from what they record. -/
structure Agreed (r r' : Except ε α × World) : Prop where
  result : r.1 = r'.1
  world : r.2.Agrees r'.2

/-- Whether two operations come to the same in worlds that agree with a given one, apart from what
they record. -/
def Op.AgreesAt (x y : Op ε α) (w : World) : Prop :=
  ∀ w' : World, w.Agrees w' → Agreed (x.runIn w) (y.runIn w')

/-- Whether two operations come to the same, apart from what they record. -/
def Op.Agrees (x y : Op ε α) : Prop := ∀ w, x.AgreesAt y w

/-- Whether two operations do the same to the objects and tables of a world, whatever they give. -/
def Op.SameEffect (x y : Op ε α) : Prop :=
  ∀ w w' : World, w.Agrees w' → (x.runIn w).2.Agrees (y.runIn w').2

/-- A world with another trace. -/
abbrev World.retraced (w : World) (trace : Array Event) (exhausted : Bool) : World :=
  { w with trace := trace, exhausted := exhausted }

theorem World.Agrees.exists_retraced {w w' : World} (h : w.Agrees w') :
    ∃ trace exhausted, w' = w.retraced trace exhausted := by
  obtain ⟨objects, tables, trace, exhausted⟩ := w
  obtain ⟨objects', tables', trace', exhausted'⟩ := w'
  obtain ⟨rfl, rfl⟩ := h
  exact ⟨trace', exhausted', rfl⟩

theorem World.Agrees.emit {w w' : World} (h : w.Agrees w') (e e' : Event) :
    (w.emit e).Agrees (w'.emit e') :=
  ⟨h.objects, h.tables⟩

namespace Op.AgreesAt

variable {x y : Op ε α} {f g : α → Op ε β} {w : World}

theorem bind (hx : x.AgreesAt y w)
    (hf : ∀ {a v}, x.runIn w = (.ok a, v) → (f a).AgreesAt (g a) v) :
    (x >>= f).AgreesAt (y >>= g) w := by
  intro w' hw
  obtain ⟨result, world⟩ := hx w' hw
  rw [Op.bind_runIn, Op.bind_runIn]
  rcases hr : x.runIn w with ⟨e | a, v⟩ <;> rcases hr' : y.runIn w' with ⟨e' | a', v'⟩ <;>
    rw [hr, hr'] at result world <;> cases result
  · exact ⟨rfl, world⟩
  · exact hf hr v' world

theorem mapError (hx : x.AgreesAt y w) (k : ε → δ) : (x.mapError k).AgreesAt (y.mapError k) w := by
  intro w' hw
  obtain ⟨result, world⟩ := hx w' hw
  rw [Op.mapError_runIn, Op.mapError_runIn]
  rcases hr : x.runIn w with ⟨e | a, v⟩ <;> rcases hr' : y.runIn w' with ⟨e' | a', v'⟩ <;>
    rw [hr, hr'] at result world <;> cases result <;> exact ⟨rfl, world⟩

theorem onError (hx : x.AgreesAt y w) {k k' : ε → World → World}
    (hk : ∀ e {w w'}, w.Agrees w' → (k e w).Agrees (k' e w')) :
    (x.onError k).AgreesAt (y.onError k') w := by
  intro w' hw
  obtain ⟨result, world⟩ := hx w' hw
  rw [Op.onError_runIn, Op.onError_runIn]
  rcases hr : x.runIn w with ⟨e | a, v⟩ <;> rcases hr' : y.runIn w' with ⟨e' | a', v'⟩ <;>
    rw [hr, hr'] at result world <;> cases result
  · exact ⟨rfl, hk e world⟩
  · exact ⟨rfl, world⟩

end Op.AgreesAt

namespace Op.Agrees

variable {x y : Op ε α}

theorem pure (a : α) : Op.Agrees (Pure.pure a : Op ε α) (Pure.pure a) := fun _ _ hw => ⟨rfl, hw⟩

theorem throw (e : ε) : Op.Agrees (throw e : Op ε α) (MonadExcept.throw e) := fun _ _ hw => ⟨rfl, hw⟩

theorem ofExcept (r : Except ε α) : (Op.ofExcept r).Agrees (.ofExcept r) := fun _ _ hw => ⟨rfl, hw⟩

theorem read {f : World → α} (h : ∀ w trace exhausted, f (w.retraced trace exhausted) = f w) :
    (Op.read f : Op ε α).Agrees (.read f) := by
  intro w w' hw
  obtain ⟨trace, exhausted, rfl⟩ := hw.exists_retraced
  exact ⟨congrArg Except.ok (h w trace exhausted).symm, hw⟩

theorem check {f : World → Except ε α}
    (h : ∀ w trace exhausted, f (w.retraced trace exhausted) = f w) :
    (Op.check f).Agrees (.check f) := by
  intro w w' hw
  obtain ⟨trace, exhausted, rfl⟩ := hw.exists_retraced
  exact ⟨(h w trace exhausted).symm, hw⟩

theorem change {f g : World → World} (h : ∀ {w w'}, w.Agrees w' → (f w).Agrees (g w')) :
    (Op.change f : Op ε Unit).Agrees (.change g) :=
  fun _ _ hw => ⟨rfl, h hw⟩

theorem make {f : World → α × World}
    (h : ∀ {w w'}, w.Agrees w' → (f w).1 = (f w').1 ∧ (f w).2.Agrees (f w').2) :
    (Op.make f : Op ε α).Agrees (.make f) :=
  fun _ _ hw => ⟨congrArg Except.ok (h hw).1, (h hw).2⟩

theorem update {f : World → Except ε World}
    (h : ∀ {w w'}, w.Agrees w' → (∃ e, f w = .error e ∧ f w' = .error e) ∨
      ∃ u u', f w = .ok u ∧ f w' = .ok u' ∧ u.Agrees u') : (Op.update f).Agrees (.update f) := by
  intro w w' hw
  rw [Op.update_runIn, Op.update_runIn]
  obtain ⟨e, hu, hu'⟩ | ⟨u, u', hu, hu', world⟩ := h hw
  · rw [hu, hu']
    exact ⟨rfl, hw⟩
  · rw [hu, hu']
    exact ⟨rfl, world⟩

theorem log (level level' : Level) (s s' : String) :
    (Op.log level s : Op ε Unit).Agrees (.log level' s') :=
  change fun hw => hw.emit _ _

theorem emit (e e' : Event) : (Op.emit e : Op ε Unit).Agrees (.emit e') :=
  change fun hw => hw.emit _ _

theorem typeName (o : ObjectId) : (Op.typeName o : Op ε String).Agrees (.typeName o) :=
  read fun _ _ _ => rfl

theorem object (o : ObjectId) : (Op.read (·.object o) : Op ε Object).Agrees (.read (·.object o)) :=
  read fun _ _ _ => rfl

theorem bind {f g : α → Op ε β} (hx : x.Agrees y) (hf : ∀ a, (f a).Agrees (g a)) :
    (x >>= f).Agrees (y >>= g) :=
  fun w => (hx w).bind fun _ => hf _ _

/-- Records on either side make no difference. -/
theorem afterLog {f : Unit → Op ε α} {g : Unit → Op ε α} (level level' : Level) (s s' : String)
    (h : (f ()).Agrees (g ())) : (Op.log level s >>= f).Agrees (Op.log level' s' >>= g) :=
  bind (log level level' s s') fun _ => h

theorem mapError (hx : x.Agrees y) (k : ε → δ) : (x.mapError k).Agrees (y.mapError k) :=
  fun w => (hx w).mapError k

theorem attempt (hx : x.Agrees y) : (x.attempt : Op δ (Except ε α)).Agrees y.attempt :=
  fun w w' hw => ⟨congrArg Except.ok (hx w w' hw).result, (hx w w' hw).world⟩

theorem onError (hx : x.Agrees y) {k k' : ε → World → World}
    (hk : ∀ e {w w'}, w.Agrees w' → (k e w).Agrees (k' e w')) :
    (x.onError k).Agrees (y.onError k') :=
  fun w => (hx w).onError hk

theorem ite {p : Prop} [Decidable p] {x' y' : Op ε α} (hx : x.Agrees y) (hx' : x'.Agrees y') :
    (if p then x else x').Agrees (if p then y else y') := by
  split
  · exact hx
  · exact hx'

theorem forM {f g : α → Op ε Unit} (h : ∀ a, (f a).Agrees (g a)) (l : List α) :
    (l.forM f).Agrees (l.forM g) := by
  induction l with
  | nil => exact pure ()
  | cons a r ih => exact bind (h a) fun _ => ih

theorem optionForM {f g : α → Op ε Unit} (h : ∀ a, (f a).Agrees (g a)) (a : Option α) :
    (a.forM f).Agrees (a.forM g) := by
  cases a with
  | none => exact pure ()
  | some a => exact h a

theorem foldlM {f g : β → α → Op ε β} (h : ∀ b a, (f b a).Agrees (g b a)) (b : β) (l : List α) :
    (l.foldlM f b).Agrees (l.foldlM g b) := by
  induction l generalizing b with
  | nil => exact pure b
  | cons a r ih =>
    rw [List.foldlM_cons, List.foldlM_cons]
    exact bind (h b a) ih

end Op.Agrees

/-! ## Changes of a world -/

namespace World.Agrees

variable {w w' : World} (h : w.Agrees w')

include h

theorem modify (o : ObjectId) (f : Object → Object) : (w.modify o f).Agrees (w'.modify o f) :=
  ⟨congrArg (·.modify o.index f) h.objects, h.tables⟩

theorem alloc (x : Object) :
    (w.alloc x).1 = (w'.alloc x).1 ∧ (w.alloc x).2.Agrees (w'.alloc x).2 :=
  ⟨congrArg (fun a => ObjectId.mk a.size) h.objects, congrArg (·.push x) h.objects, h.tables⟩

theorem allocTable (ids : Entries Value) :
    (w.allocTable ids).1 = (w'.allocTable ids).1 ∧
      (w.allocTable ids).2.Agrees (w'.allocTable ids).2 :=
  ⟨congrArg (fun a => TableId.mk a.size) h.tables, h.objects, congrArg (·.push ids) h.tables⟩

end World.Agrees

theorem World.follow_retraced (w : World) (trace : Array Event) (exhausted : Bool) (v : Value)
    (segments : List String) :
    (w.retraced trace exhausted).follow v segments = w.follow v segments := by
  induction segments generalizing v with
  | nil => cases v <;> rfl
  | cons s r ih =>
    cases v with
    | object o =>
      have same : (w.retraced trace exhausted).object o = w.object o := rfl
      simp only [World.follow, same, ih]
    | _ => rfl

theorem World.resolve_retraced (w : World) (trace : Array Event) (exhausted : Bool) (t : TableId)
    (segments : List String) :
    (w.retraced trace exhausted).resolve t segments = w.resolve t segments := by
  have same : (w.retraced trace exhausted).table t = w.table t := rfl
  simp only [World.resolve, World.resolveIn, same, World.follow_retraced]

theorem World.Agrees.putId {w w' : World} (h : w.Agrees w') (t : TableId) (id : String) (v : Value) :
    (∃ e, w.putId t id v = .error e ∧ w'.putId t id v = .error e) ∨
      ∃ u u', w.putId t id v = .ok u ∧ w'.putId t id v = .ok u' ∧ u.Agrees u' := by
  obtain ⟨u, u', hu, hu', same⟩ | ⟨e, hu, hu'⟩ :=
    ((Twins.sameWorld_itself.2 h).putId (Twins.sameTable_itself.2 rfl) id
      (Twins.sameValue_itself.2 rfl)).ok_or_error
  · exact .inr ⟨u, u', hu, hu', Twins.sameWorld_itself.1 same⟩
  · exact .inl ⟨e, hu, hu'⟩

theorem World.Agrees.assign {w w' : World} (h : w.Agrees w') (o : ObjectId) (name : String)
    (v : Value) : (∃ e, w.assign o name v = .error e ∧ w'.assign o name v = .error e) ∨
      ∃ u u' previous, w.assign o name v = .ok ⟨u, previous⟩ ∧
        w'.assign o name v = .ok ⟨u', previous⟩ ∧ u.Agrees u' := by
  obtain ⟨⟨u, previous⟩, ⟨u', previous'⟩, hu, hu', same⟩ | ⟨e, hu, hu'⟩ :=
    ((Twins.sameWorld_itself.2 h).assign (Twins.sameObject_itself.2 rfl) name
      (Twins.sameValue_itself.2 rfl)).ok_or_error
  · cases (Twins.option_itself fun _ _ => Twins.sameValue_itself).1 same.previous
    exact .inr ⟨u, u', previous, hu, hu', Twins.sameWorld_itself.1 same.world⟩
  · exact .inl ⟨e, hu, hu'⟩

theorem World.Agrees.isAlive_eq {w w' : World} (h : w.Agrees w') (held : Held) (o : ObjectId) :
    w.isAlive held o = w'.isAlive held o :=
  (Twins.sameWorld_itself.2 h).isAlive_eq (Twins.sameHeld_itself (fun _ => .rfl) fun _ => .rfl)
    (Twins.sameObject_itself.2 rfl)

/-! ## What a document does by itself -/

section

variable {l : Loader} {c : DocumentContext}

theorem agrees_failAt {α : Type} (at_ : Location) (f : StructureFault) :
    (failAt at_ f : Op LoadError α).Agrees (failAt at_ f) := .throw _

theorem agrees_orFail {α : Type} (at_ : Location) (f : StructureFault) (a : Option α) :
    (orFail at_ f a).Agrees (orFail at_ f a) := by
  cases a with
  | none => exact agrees_failAt at_ f
  | some a => exact .pure a

theorem agrees_require (at_ : Location) (f : StructureFault) (p : Bool) :
    (require at_ f p).Agrees (require at_ f p) := .ite (.pure ()) (agrees_failAt at_ f)

theorem agrees_objectOr (at_ : Location) (f : StructureFault) (v : Value) :
    (objectOr at_ f v).Agrees (objectOr at_ f v) := agrees_orFail at_ f v.object?

theorem agrees_lookup (b : Bundle) (key : String) :
    (Op.make (b.lookup key) : Op ε (Option Value)).Agrees (.make (b.lookup key)) := by
  refine .make fun {w w'} hw => ?_
  obtain ⟨value, world⟩ :=
    (Twins.sameWorld_itself.2 hw).lookup (Twins.sameBundle_itself b) key
  exact ⟨(Twins.option_itself fun _ _ => Twins.sameValue_itself).1 value,
    Twins.sameWorld_itself.1 world⟩

theorem agrees_resolve (c : DocumentContext) (segments : List String) :
    ((Op.check (·.resolve c.table segments)).mapError LoadError.table).Agrees
      ((Op.check (·.resolve c.table segments)).mapError LoadError.table) :=
  .mapError (.check fun w t b => w.resolve_retraced t b c.table segments) _

namespace DocumentContext

variable (c)

theorem agrees_resolveForm (form : AttributeForm) :
    (c.resolveForm form).Agrees (c.resolveForm form) := by
  cases form with
  | literal s => exact .pure _
  | binding expression => exact .pure _
  | location relative =>
    simp only [resolveForm]
    split
    · exact .throw _
    · split
      · exact .pure _
      · exact .throw _
  | resource key =>
    refine .bind ?_ fun v => ?_
    · cases c.bundle with
      | none => exact .make fun hw => ⟨rfl, hw⟩
      | some b => exact agrees_lookup b key
    · cases v with
      | none => exact .afterLog _ _ _ _ (.pure _)
      | some v => exact .pure _
  | null => exact .pure _
  | reference path => exact .bind (agrees_resolve c _) fun _ => .pure _

theorem agrees_resolveAttribute (raw : String) (at_ : Location) :
    (c.resolveAttribute raw at_).Agrees (c.resolveAttribute raw at_) :=
  .bind (.mapError (.ofExcept _) _) c.agrees_resolveForm

end DocumentContext

/-! ### Inclusions -/

theorem agrees_includeSource (c : DocumentContext) (src : String) :
    (includeSource c src).Agrees (includeSource c src) := by
  unfold includeSource
  split
  · refine .ite (.ite (.pure _) ?_) (.pure _)
    exact .bind (agrees_resolve c _) fun v => .read fun _ _ _ => rfl
  · exact .pure _

theorem BundleLoader.agrees_load (b : BundleLoader) (name : String) (parent : Option Bundle) :
    (b.load name parent).Agrees (b.load name parent) := by
  unfold BundleLoader.load
  refine .bind (.ofExcept _) fun u => .bind (.ofExcept _) fun bytes => .bind (.ofExcept _) fun fs => ?_
  refine .bind (.foldlM (fun fs suffix => ?_) _ _) fun fs => .pure _
  refine .bind (.ofExcept _) fun u => .ite ?_ (.pure _)
  refine .afterLog _ _ _ _ (.bind (.ofExcept _) fun bytes => .bind (.ofExcept _) fun above => ?_)
  exact .bind (.forM (fun _ => .log _ _ _ _) _) fun _ => .pure _

theorem agrees_includeBundle (e : Element) :
    (includeBundle l c e).Agrees (includeBundle l c e) := by
  unfold includeBundle
  split
  · exact .pure _
  · split
    · exact agrees_failAt _ _
    · exact .bind (.mapError (BundleLoader.agrees_load _ _ _) _) fun _ => .pure _

theorem agrees_includeCharset (e : Element) : (includeCharset l e).Agrees (includeCharset l e) := by
  unfold includeCharset
  split
  · exact .pure _
  · split
    · exact .pure _
    · exact .throw _

theorem agrees_includeTable (e : Element) : (includeTable c e).Agrees (includeTable c e) :=
  .ite (.pure _) (.make fun hw => hw.allocTable _)

theorem agrees_prepareInclusion {α : Type} (nested : Option α) (d : Draft) (e : Element) :
    (prepareInclusion l c nested d e).Agrees (prepareInclusion l c nested d e) := by
  unfold prepareInclusion
  refine .bind (agrees_orFail _ _ _) fun src => .bind (agrees_includeSource c src) fun src => ?_
  refine .bind (agrees_orFail _ _ _) fun n => .bind (agrees_includeBundle e) fun b => ?_
  refine .bind (agrees_includeCharset e) fun x => .bind (agrees_includeTable e) fun t => ?_
  exact .bind (.ofExcept _) fun u => .afterLog _ _ _ _ (.pure _)

/-! ### Starts of elements -/

theorem agrees_classifyControl (stack : List Element) (name : String) (at_ : Location) :
    (classifyControl stack name at_).Agrees (classifyControl stack name at_) :=
  .bind (agrees_require _ _ _) fun _ => .bind (agrees_orFail _ _ _) fun _ => .pure _

theorem agrees_classifyProperty (stack : List Element) (name : String) (at_ : Location) :
    (classifyProperty stack name at_).Agrees (classifyProperty stack name at_) := by
  unfold classifyProperty
  refine .bind (agrees_orFail _ _ _) fun parent => .bind (agrees_objectOr _ _ _) fun o => ?_
  refine .bind (.object o) fun x => .ite (.pure _) ?_
  split
  · exact agrees_failAt _ _
  · exact .pure _
  · refine .bind (.mapError (.ofExcept _) _) fun v => ?_
    exact .bind (agrees_require _ _ _) fun _ => .pure _
  · exact .pure _

theorem agrees_classifyAttached (stack : List Element) (tag : Xml.StartTag) (owner property : String)
    (at_ : Location) : (classifyAttached stack tag owner property at_).Agrees
      (classifyAttached stack tag owner property at_) :=
  .bind (agrees_orFail _ _ _) fun _ => .bind (agrees_objectOr _ _ _) fun _ => .pure _

theorem Attributed.agrees_add (c : DocumentContext) (uri : Option String) (x : Attributed)
    (a : Xml.MarkupAttribute) : (Attributed.add c uri x a).Agrees (Attributed.add c uri x a) := by
  have resolved : (x.addResolved c a).Agrees (x.addResolved c a) := by
    refine .bind (c.agrees_resolveAttribute _ _) fun v => ?_
    cases v with
    | resolved v => exact .pure _
    | binding expression => exact .pure _
  unfold Attributed.add
  refine .ite ?_ (.ite (.pure _) ?_)
  · refine .bind (agrees_require _ _ _) fun _ => .bind ?_ fun _ => .pure _
    refine .bind (agrees_require _ _ _) fun _ => .bind (.check fun _ _ _ => rfl) fun _ => ?_
    exact agrees_require _ _ _
  · split
    · exact .bind (agrees_require _ _ _) fun _ => .pure _
    · cases x.element.kind with
      | listeners => exact .pure _
      | script | definition | writable | attached => exact agrees_failAt _ _
      | instanceOf | readOnly | inclusion | reference => exact resolved

theorem agrees_resolveReference (e : Element) :
    (resolveReference c e).Agrees (resolveReference c e) :=
  .bind (agrees_orFail _ _ _) fun _ => .check fun _ _ _ => rfl

theorem Draft.agrees_push (d : Draft) (x : Attributed) (v : Value) (parented : List ObjectId) :
    (d.push x v parented).Agrees (d.push x v parented) := by
  refine .bind (.ite (.pure _) ?_) fun _ => .pure _
  exact .bind (agrees_require _ _ _) fun _ => .bind (agrees_objectOr _ _ _) fun _ => .pure _

/-! ### Ends of elements -/

theorem agrees_adopt (v : Value) (at_ : Location) (parented : List ObjectId) :
    (adopt v at_ parented).Agrees (adopt v at_ parented) := by
  cases v with
  | object o => exact .bind (.typeName o) fun _ => .bind (agrees_require _ _ _) fun _ => .pure _
  | _ => exact .pure _

theorem Draft.agrees_addInstruction (d : Draft) (target data : String) (at_ : Location) :
    (d.addInstruction target data at_).Agrees (d.addInstruction target data at_) :=
  .ite (.afterLog _ _ _ _ (.pure _)) (.ite (agrees_failAt _ _) (.pure _))

theorem agrees_mappingNamed (language : String) (f : Option String) :
    (mappingNamed l language f).Agrees (mappingNamed l language f) := by
  cases f with
  | none => exact .pure _
  | some f => exact .bind (.ofExcept _) fun _ => .pure _

theorem agrees_bindingSource (c : DocumentContext) (objectPath : List String) (key path : String) :
    (bindingSource c objectPath key path).Agrees (bindingSource c objectPath key path) := by
  have defined {α : Type} (path : String) (a : Option α) :
      (orUndefined path a).Agrees (orUndefined path a) := by
    cases a with
    | none => exact .throw _
    | some a => exact .pure a
  refine .bind (agrees_resolve c _) fun v => .bind (defined _ _) fun o => ?_
  exact .bind (.read fun _ _ _ => rfl) fun readable => defined _ _

theorem agrees_reportFailure (c : DocumentContext) (at_ : Location) (e : LoadError) {w w' : World}
    (h : w.Agrees w') : (reportFailure c at_ e w).Agrees (reportFailure c at_ e w') :=
  (h.emit _ _).emit _ _

theorem agrees_reportFault (c : DocumentContext) (es : Xml.Events) :
    (reportFault c es).Agrees (reportFault c es) := by
  unfold reportFault
  split
  · exact .onError (.throw _) fun e _ _ hw => agrees_reportFailure c _ e hw
  · exact .pure _

theorem Draft.agrees_finish (d : Draft) : d.finish.Agrees d.finish := by
  unfold Draft.finish
  split
  · exact agrees_failAt _ _
  · split
    · exact .pure _
    · exact agrees_failAt _ _

end

end Bxml
