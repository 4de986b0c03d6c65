import Bxml.Proofs.Load.Steps
import Bxml.Proofs.Zones.Opening

/-!
# Loads in a zone

Texts and ends of elements stay in a sealed zone as long as the elements they are about belong to it,
and so does the load of a document whose bundle belongs to the zone.  Setting the attributes and the
id of an element asks for less: it only matters that the object of the element may be changed.

* `Draft.IsIn` is the invariant of a document and `Refills` what an event may do to the open
  elements around it.
* `step` is one event, for which there is one lemma for each kind of event before it.
* `loadNested` is a whole document, by induction on the depth of inclusions and over the events.
-/

namespace Bxml

section

variable (Z : Zone)

/-- Whether the open elements are the same, except that the innermost one may have been given a text
and a value of a zone. -/
inductive Refills (stack : List Element) : List Element → Prop
  | same : Refills stack stack
  | given {e : Element} {outer : List Element} {v : Value} (text : Option String) :
      stack = e :: outer → Z.value v → Refills stack ({ e with value := v, text := text } :: outer)

/-- Whether a document is the same, except that its innermost open element may have been given
something of a zone. -/
structure Draft.Continues (d d' : Draft) : Prop where
  stack : Refills Z d.stack d'.stack
  bindings : d'.bindings = d.bindings
  root : d'.root = d.root

/-- Whether the open elements, the bindings and the root of a document belong to a zone. -/
structure Draft.IsIn (d : Draft) : Prop where
  stack : ∀ e ∈ d.stack, e.IsIn Z
  bindings : ∀ p ∈ d.bindings, Z.value (.object p.target)
  root : ∀ v, d.root = some v → Z.value v

end

variable {Z : Zone} {l : Loader} {c : DocumentContext} {d d' : Draft} {e : Element}

theorem Draft.Continues.refl (d : Draft) : d.Continues Z d := ⟨.same, rfl, rfl⟩

theorem Refills.isIn {stack stack' : List Element} (h : Refills Z stack stack')
    (hs : ∀ e ∈ stack, e.IsIn Z) : ∀ e ∈ stack', e.IsIn Z := by
  cases h with
  | same => exact hs
  | given text he hv =>
    rw [he, List.forall_mem_cons] at hs
    exact List.forall_mem_cons.2 ⟨⟨hv, hs.1.attributes⟩, hs.2⟩

theorem topIsIn_of_forall {stack : List Element} (hs : ∀ e ∈ stack, e.IsIn Z) : TopIsIn Z stack :=
  fun e he => (hs e (List.mem_of_head? he)).value

theorem Draft.isIn_start (parented : List ObjectId) : (Draft.start parented).IsIn Z := by
  refine ⟨?_, ?_, ?_⟩
  · rintro e ⟨⟩
  · rintro p ⟨⟩
  · rintro v ⟨⟩

theorem Draft.IsIn.of_continues (hd : d.IsIn Z) (h : d.Continues Z d') : d'.IsIn Z where
  stack := h.stack.isIn hd.stack
  bindings := by
    rw [h.bindings]
    exact hd.bindings
  root := by
    rw [h.root]
    exact hd.root

theorem Draft.continues_setValue {v : Value} (hv : Z.value v) : d.Continues Z (d.setValue v) := by
  unfold Draft.setValue
  split
  · exact .refl d
  · next hs => exact ⟨.given _ hs hv, rfl, rfl⟩

theorem stays_adopt (v : Value) (at_ : Location) (parented : List ObjectId) :
    (adopt v at_ parented).Stays Z := by
  unfold adopt
  split
  · exact .bind (.typeName _) fun _ _ => .bind (stays_require _ _ _) fun _ _ => .pure trivial
  · exact .pure trivial

/-- The object that takes a value is that of the innermost open element. -/
theorem value_of_receiver? {stack : List Element} {at_ : Location} {o : ObjectId}
    (h : receiver? stack at_ = .ok (some (.object o))) :
    ∃ e, stack.head? = some e ∧ e.value = .object o := by
  cases stack with
  | nil => cases h
  | cons e outer =>
    refine ⟨e, rfl, ?_⟩
    unfold receiver? at h
    dsimp only at h
    split at h
    · cases h
    · split at h
      · cases h
      · split at h
        · cases h
        · next hv =>
          cases h
          exact hv
        · cases h

/-! ## Setting attributes and ids -/

namespace Loader.SetsIn

variable (hl : l.SetsIn Z)

include hl

theorem setsProperty (h : Held) {o : ObjectId} (ho : Z.object o) (name : String) {v : Value}
    (hv : Z.value v) :
    ((l.host.setProperty h o name v).mapError LoadError.property).Stays Z :=
  .mapError (hl.host.setProperty _ _ ho hv) _

theorem applyAttributes (h : Held) (ho : ∀ o, e.value.object? = some o → Z.object o)
    (ha : e.attributes.All Z.value) : (applyAttributes l h e).Stays Z := by
  refine .ite (fun _ => .pure trivial) fun _ => ?_
  refine .bind (stays_objectOr _ _ ho) fun o ho => .forM fun p hp => ?_
  exact hl.setsProperty h ho _ (ha.of_mem hp)

theorem applyAttachedAttributes (hc : c.IsIn Z) (h : Held) (language : String)
    (ho : ∀ o, e.value.object? = some o → Z.object o) :
    (applyAttachedAttributes l c h language e).Stays Z := by
  refine .ite (fun _ => .pure trivial) fun _ => ?_
  refine .bind (stays_objectOr _ _ ho) fun o ho => .forM fun a _ => ?_
  refine .bind (.readAny _) fun list _ => ?_
  cases list with
  | some list =>
    refine .bind (stays_require _ _ _) fun _ _ => .bind (.ofExceptAny _) fun _ _ => ?_
    exact .bind (.log _ _) fun _ _ => .change fun w hw => Z.addListener hw ho _ _
  | none =>
    refine .bind (hc.resolveAttribute _ _) fun v hv => ?_
    cases v with
    | binding _ => exact stays_failAt _ _
    | resolved v =>
      refine .bind (.mapError (hl.attach _ _ _ ho (hv v rfl)) _) fun _ _ => ?_
      exact .bind (.typeName _) fun _ _ => .log _ _

theorem registerId (c : DocumentContext) (h : Held) (he : Z.value e.value)
    (ho : ∀ o, e.value.object? = some o → Z.object o) : (registerId l c h e).Stays Z := by
  unfold Bxml.registerId
  split
  · refine .bind (.mapError (.update fun w v hw hv => Z.putId hw he hv) _) fun _ _ => ?_
    split
    · next o hv =>
      refine .bind (.readAny _) fun property _ => ?_
      split
      · exact hl.setsProperty h (ho o hv) _ (Z.scalar rfl)
      · exact .pure trivial
    · exact .pure trivial
  · exact .pure trivial

end Loader.SetsIn

/-! ## Composition and text -/

namespace Loader.StaysIn

variable (hl : l.StaysIn Z) (hz : Z.IsSealed)

section

include hl hz

theorem addChild (h : Held) {o : ObjectId} (ho : Z.value (.object o)) {v : Value} (hv : Z.value v)
    (at_ : Location) : (addChild l h o v at_).Stays Z := by
  unfold Bxml.addChild
  refine .bind (hz.reads ho) fun x hx => ?_
  split
  · refine .bind (.mapError (.ofExcept (hx _)) _) fun current hc => ?_
    have object : Op.StaysIn Z (fun list : Option ObjectId => ∀ p, list = some p → Z.object p)
        (Op.read (ε := LoadError) fun w =>
          current.object?.filter fun p => (w.object p).sequence?.isSome) := by
      refine .read fun w _ p hp => ?_
      exact hz.object (Zone.value_of_object? hc (Option.filter_eq_some_iff.1 hp).1)
    refine .bind object fun list hlist => ?_
    cases list with
    | some p => exact .change fun w hw => Z.append hw (hlist p rfl) hv
    | none => exact hl.setsProperty h (hz.object ho) _ hv
  · refine .ite (fun _ => .change fun w hw => ?_) fun _ => stays_failAt _ _
    exact Z.append hw (hz.object ho) hv

theorem compose (c : DocumentContext) (he : Z.value e.value) (hs : TopIsIn Z d.stack) :
    (compose l c d e).StaysIn Z (d.Continues Z) := by
  unfold Bxml.compose
  refine .bind (.ofExcept fun _ h => h) fun r hr => ?_
  cases r with
  | none => exact .pure (.refl d)
  | some r =>
    refine .bind (stays_adopt _ _ _) fun parented _ => ?_
    cases r with
    | element =>
      have given := @Draft.continues_setValue Z { d with parented := parented } _ he
      exact .pure ⟨given.stack, given.bindings, given.root⟩
    | object o =>
      obtain ⟨p, hp, hv⟩ := value_of_receiver? hr
      have value := hs p hp
      rw [hv] at value
      refine .bind (hl.addChild hz _ value he _) fun _ _ => ?_
      exact .pure ⟨.same, rfl, rfl⟩

theorem addText (c : DocumentContext) (hs : TopIsIn Z d.stack) (text : String) (at_ : Location) :
    (d.addText l c text at_).StaysIn Z (d.Continues Z) := by
  unfold Draft.addText
  refine .ite (fun _ => .pure (.refl d)) fun _ => ?_
  split
  · exact stays_failAt _ _
  · next e outer hd =>
    have value : Z.value e.value := hs e (by rw [hd]; rfl)
    split
    · refine .bind (stays_objectOr _ _ fun _ => Zone.value_of_object? value) fun o ho => ?_
      refine .bind (.readAny _) fun x _ => .bind (stays_require _ _ _) fun _ _ => ?_
      exact .bind (hl.addChild hz _ ho (Z.scalar rfl) _) fun _ _ => .pure (.refl d)
    · exact .pure ⟨.given _ hd (Z.scalar rfl), rfl, rfl⟩
    · exact .pure ⟨.given _ hd (Z.scalar rfl), rfl, rfl⟩
    · exact .pure ⟨.given _ hd value, rfl, rfl⟩
    · exact .pure ⟨.given _ hd value, rfl, rfl⟩
    · exact stays_failAt _ _

end

theorem addInstruction (d : Draft) (target data : String) (at_ : Location) :
    (d.addInstruction target data at_).StaysIn Z (d.Continues Z) := by
  refine .ite (fun _ => .bind (.log _ _) fun _ _ => .pure (.refl d)) fun _ => ?_
  dsimp only
  refine .ite (fun _ => ?_) fun _ => .pure ⟨.same, rfl, rfl⟩
  exact .bind (P := fun _ => True) (stays_failAt _ _) fun _ _ => .pure ⟨.same, rfl, rfl⟩

/-! ## Scripts and listeners -/

section

include hl

theorem evaluate (c : DocumentContext) (h : Held) (engine : EngineId) (source origin : String) :
    (evaluate l c h engine source origin).Stays Z := by
  have eval : ((l.host.engine engine).eval h source c.table).Stays Z := by
    unfold Engine.eval
    split
    · next hf => exact hl.evaluator hf _ _ _
    · exact .throw _
  refine .bind (.attempt eval) fun r _ => ?_
  cases r with
  | ok _ => exact .pure trivial
  | error _ => exact .bind (.log _ _) fun _ _ => .bind (.log _ _) fun _ _ => .pure trivial

theorem evaluateText (c : DocumentContext) (h : Held) (engine : EngineId) (text : Option String) :
    (evaluateText l c h engine text).Stays Z := by
  cases text with
  | none => exact .pure trivial
  | some source => exact hl.evaluate _ _ _ _ _

theorem runScript (c : DocumentContext) (h : Held) (language : String) (e : Element) :
    (runScript l c h language e).Stays Z := by
  refine .bind (.forM_option fun src => ?_) fun _ _ => .forM_option fun source => ?_
  · refine .bind (P := fun _ => True) (stays_orFail _ _ fun _ _ => trivial) fun _ _ => ?_
    refine .bind (.ofExceptAny _) fun _ _ => .bind (.ofExceptAny _) fun _ _ => ?_
    refine .bind (.ofExceptAny _) fun _ _ => ?_
    exact .bind (hl.evaluate _ _ _ _ _) fun _ _ => .pure trivial
  · refine .bind (.ofExceptAny _) fun _ _ => ?_
    exact .bind (hl.evaluate _ _ _ _ _) fun _ _ => .pure trivial

end

include hl

/-- A listener is installed on the object around it. -/
theorem installAdapter (c : DocumentContext) (h : Held) (language : String) {stack : List Element}
    (hs : ∀ p, stack.head? = some p → ∀ o, p.value.object? = some o → Z.object o) (e : Element) :
    (installAdapter l c h language stack e).Stays Z := by
  refine .bind (stays_orFail _ _ hs) fun parent hp => .bind (stays_objectOr _ _ hp) fun o ho => ?_
  refine .bind (.readAny _) fun x _ => ?_
  refine .bind (P := fun _ => True) (stays_orFail _ _ fun _ _ => trivial) fun list _ => ?_
  refine .bind (.forM fun _ _ => (stays_require _ _ _).mono fun _ _ => trivial) fun _ _ => ?_
  refine .bind (.ofExceptAny _) fun engine _ => ?_
  refine .bind (hl.evaluateText _ _ _ _) fun evaluated _ => .ite (fun _ => ?_) fun _ => .pure trivial
  refine .bind (.readAny _) fun functions _ => .bind (.typeName _) fun _ _ => ?_
  exact .bind (.log _ _) fun _ _ => .change fun w hw => Z.addListener hw ho _ _

/-! ## Ends of elements -/

/-- An element the value of which does not go to its parent changes no more than the object around
it. -/
theorem closeAs_apart (hk : e.kind.isComposed = false) (he : e.IsIn Z)
    (ho : ∀ o, e.value.object? = some o → Z.object o)
    (hs : ∀ p, d.stack.head? = some p → ∀ o, p.value.object? = some o → Z.object o) :
    (Bxml.closeAs l c d e).Stays Z := by
  have owner (at_ : Location) (f : StructureFault) :
      (orFail at_ f (owner? d.stack)).StaysIn Z Z.object := by
    refine stays_orFail _ _ fun o ho => ?_
    obtain ⟨p, hp, ho⟩ := Option.bind_eq_some_iff.1 ho
    exact hs p hp o ho
  unfold Bxml.closeAs
  cases hkind : e.kind with
  | instanceOf | inclusion | reference =>
    rw [hkind] at hk
    cases hk
  | readOnly => exact .bind (hl.applyAttributes _ ho he.attributes) fun _ _ => .pure trivial
  | writable =>
    refine .bind (owner _ _) fun o ho => ?_
    exact .bind (hl.setsProperty _ ho _ he.value) fun _ _ => .pure trivial
  | attached =>
    refine .bind (P := fun _ => True) ?_ fun _ _ => .pure trivial
    refine .bind (owner _ _) fun o ho => ?_
    refine .bind (P := fun _ => True) (stays_orFail _ _ fun _ _ => trivial) fun _ _ => ?_
    exact .mapError (hl.attach _ _ _ ho he.value) _
  | listeners => exact .bind (hl.installAdapter c _ _ hs e) fun _ _ => .pure trivial
  | script => exact .bind (hl.runScript c _ _ e) fun _ _ => .pure trivial
  | definition => exact .pure trivial

include hz

theorem closeAs (hc : c.IsIn Z) (he : e.IsIn Z) (hs : TopIsIn Z d.stack) :
    (closeAs l c d e).StaysIn Z (d.Continues Z) := by
  have object : ∀ o, e.value.object? = some o → Z.object o :=
    fun _ ho => hz.object (Zone.value_of_object? he.value ho)
  cases hk : e.kind.isComposed with
  | true =>
    rw [closeAs_of_isComposed hk]
    refine .bind (hl.applyAttributes _ object he.attributes) fun _ _ => ?_
    refine .bind (hl.compose hz c he.value hs) fun d' hd => ?_
    exact .bind (hl.applyAttachedAttributes hc _ _ object) fun _ _ => .pure hd
  | false =>
    intro w hw
    have closed := @closeAs_apart Z l c d e hl hk he object
      fun p hp o ho => hz.object (Zone.value_of_object? (hs p hp) ho)
    refine ⟨(closed w hw).1, fun d' hd' => ?_⟩
    rw [closeAs_of_not_isComposed hk (Prod.ext hd' rfl)]
    exact .refl d

theorem closeElement (hc : c.IsIn Z) (hd : d.IsIn Z) (at_ : Location) :
    (d.closeElement l c at_).StaysIn Z (Draft.IsIn Z) := by
  unfold Draft.closeElement
  split
  · exact stays_failAt _ _
  · next e outer hs =>
    have stack := hd.stack
    rw [hs, List.forall_mem_cons] at stack
    have closed := @closeAs Z l c { d with stack := outer } e hl hz hc stack.1
      (topIsIn_of_forall stack.2)
    refine .bind closed fun d' hd' => ?_
    refine .bind (hl.registerId c _ stack.1.value fun o ho => ?_) fun _ _ => ?_
    · exact hz.object (Zone.value_of_object? stack.1.value ho)
    have bindings : ∀ p ∈ d'.bindings, Z.value (.object p.target) := by
      rw [hd'.bindings]
      exact hd.bindings
    refine .pure ?_
    split
    · refine ⟨hd'.stack.isIn stack.2, bindings, ?_⟩
      rintro _ ⟨⟩
      exact stack.1.value
    · refine ⟨hd'.stack.isIn stack.2, bindings, ?_⟩
      rw [hd'.root]
      exact hd.root

/-! ## Events and documents -/

/-- What an event does to a document in a zone stays there. -/
theorem step (hc : c.IsIn Z) {nested : Option NestedLoad}
    (hn : ∀ n, nested = some n → NestedLoad.StaysIn Z n) (hd : d.IsIn Z) (x : Xml.Located) :
    (d.step l c nested x).StaysIn Z (Draft.IsIn Z) := by
  have top := topIsIn_of_forall hd.stack
  unfold Draft.step
  split
  · exact .mono (addInstruction d _ _ _) fun _ => hd.of_continues
  · refine .mono (openElement hc hn (hl.classify hz top _ _)) ?_
    rintro d' ⟨e, bindings, h⟩
    obtain ⟨f, hf, -, value⟩ := h.found
    have value : Z.value e.value := by
      rcases value with he | he
      · rw [he]
        exact hf
      · exact he
    refine ⟨?_, ?_, ?_⟩
    · rw [h.stack]
      exact List.forall_mem_cons.2 ⟨⟨value, h.attributes⟩, hd.stack⟩
    · rw [h.bindings]
      refine List.forall_mem_append.2 ⟨hd.bindings, fun p hp => ?_⟩
      rwa [h.target p hp] at value
    · rw [h.root]
      exact hd.root
  · exact hl.closeElement hz hc hd _
  · exact .mono (hl.addText hz c top _ _) fun _ => hd.of_continues

omit hl hz in
theorem reportFailure (c : DocumentContext) (at_ : Location) (e : LoadError) {w : World}
    (hw : Z.world w) : Z.world (reportFailure c at_ e w) := Z.emit (Z.emit hw _) _

theorem takeEvents (hc : c.IsIn Z) {nested : Option NestedLoad}
    (hn : ∀ n, nested = some n → NestedLoad.StaysIn Z n) (hd : d.IsIn Z)
    (items : List Xml.Located) : (takeEvents l c nested d items).StaysIn Z (Draft.IsIn Z) :=
  .foldlM hd fun _ x hd => .onError (hl.step hz hc hn hd x) fun _ _ hw => reportFailure _ _ _ hw

omit hl hz in
theorem bindingSource (c : DocumentContext) (objectPath : List String) (key path : String) :
    (bindingSource c objectPath key path).StaysIn Z fun o => Z.value (.object o) := by
  have defined {α : Type} {P : α → Prop} (path : String) {o : Option α} (h : ∀ a, o = some a → P a) :
      (orUndefined path o).StaysIn Z P := by
    cases o with
    | none => exact .throw _
    | some a => exact .pure (h a rfl)
  have value : Op.StaysIn Z Z.value (Op.check (·.resolve c.table objectPath)) :=
    .check fun w v hw hv => Z.resolve hw hv
  refine .bind (.mapError value _) fun v hv => ?_
  refine .bind (defined _ fun _ => Zone.value_of_object? hv) fun o ho => ?_
  refine .bind (.readAny _) fun readable _ => defined _ fun p hp => ?_
  split at hp <;> cases hp
  exact ho

omit hz in
theorem connect (h : Held) {b : Bxml.Binding} (hb : Z.binding b) (path : String) :
    (connect l h b path).Stays Z := by
  refine .bind (.mapError (hl.host.copyAlong hl.host.setProperty h hb) _) fun _ _ => ?_
  refine .bind (.typeName _) fun _ _ => .bind (.readAny _) fun publishes _ => ?_
  refine .ite (fun _ => .bind (.typeName _) fun _ _ => ?_) fun _ => .log _ _
  exact .bind (.log _ _) fun _ _ => .change fun w hw => Z.subscribe hw hb

theorem bind (c : DocumentContext) (h : Held) (language : String) {p : PendingBinding}
    (hp : Z.value (.object p.target)) : (bind l c h language p).Stays Z := by
  unfold Bxml.bind
  refine .bind (stays_require _ _ _) fun _ _ => .bind (P := fun _ => True) ?mapping fun mapping _ => ?_
  case mapping =>
    unfold mappingNamed
    split
    · exact .bind (.ofExceptAny _) fun _ _ => .pure trivial
    · exact .pure trivial
  dsimp only
  split
  · exact .pure trivial
  · have value : Op.StaysIn Z Z.value
        (Op.check (·.resolve c.table (pathSegments (splitMapping p.expression).2))) :=
      .check fun w v hw hv => Z.resolve hw hv
    refine .ite (fun _ => ?_) fun _ => ?_
    · refine .bind (.mapError value _) fun v hv => ?_
      refine .bind (.mapError (hl.host.mapped _ _ hv) _) fun v hv => ?_
      exact hl.setsProperty _ (hz.object hp) _ hv
    · exact .bind (bindingSource _ _ _ _) fun o ho => hl.connect _ (hz.binding ho hp) _

theorem applyBindings (c : DocumentContext) (h : Held) (language : String)
    {ps : List PendingBinding} (hp : ∀ p ∈ ps, Z.value (.object p.target)) :
    (applyBindings l c h language ps).Stays Z := by
  induction ps with
  | nil => exact .pure trivial
  | cons p ps ih =>
    rw [List.forall_mem_cons] at hp
    exact .bind (hl.bind hz _ _ _ hp.1) fun _ _ => ih hp.2

omit hz in
theorem completeRoot (c : DocumentContext) (h : Held) {root : Value} (hr : Z.value root) :
    (completeRoot l c h root).Stays Z := by
  unfold Bxml.completeRoot
  split
  · next o ho =>
    refine .bind (.readAny _) fun hook _ => ?_
    split
    · exact .mapError (hl.hook _ _ _ _ (Zone.value_of_object? hr ho)) _
    · exact .pure trivial
  · exact .pure trivial

theorem complete (c : DocumentContext) (es : Xml.Events) (hd : d.IsIn Z) :
    (d.complete l c es).StaysIn Z fun r => Z.value r.1.root := by
  refine .bind (P := fun _ => True) ?fault fun _ _ => .bind (P := Z.value) ?finish fun root hr => ?_
  case fault =>
    unfold reportFault
    split
    · exact .onError (.throw _) fun _ _ hw => reportFailure _ _ _ hw
    · exact .pure trivial
  case finish =>
    unfold Draft.finish
    split
    · exact stays_failAt _ _
    · split
      · next v hv => exact .pure (hd.root v hv)
      · exact stays_failAt _ _
  refine .bind (.onError (hl.applyBindings hz _ _ _ hd.bindings) fun _ _ hw => Z.emit hw _) fun _ _ => ?_
  refine .bind (hl.completeRoot _ _ hr) fun _ _ => .bind (.readAny _) fun _ _ => ?_
  exact .bind (.log _ _) fun _ _ => .pure hr

theorem loadWith {nested : Option NestedLoad}
    (hn : ∀ n, nested = some n → NestedLoad.StaysIn Z n) :
    NestedLoad.StaysIn Z (loadWith l nested) := by
  intro c parented source hc
  refine .bind (.change fun _ hw => Z.emit hw _) fun _ _ => ?_
  exact .bind (hl.takeEvents hz hc hn (Draft.isIn_start parented) _) fun d hd => hl.complete hz c _ hd

/-- The load of a document stays in a zone that its bundle belongs to, and gives a value of it. -/
theorem loadNested (n : Nat) : NestedLoad.StaysIn Z (loadNested l n) := by
  induction n with
  | zero => exact hl.loadWith hz nofun
  | succ n ih =>
    refine hl.loadWith hz ?_
    rintro _ ⟨⟩
    exact ih

end Loader.StaysIn

end Bxml
