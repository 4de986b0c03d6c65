import Bxml.Load.Document
import Bxml.Proofs.Zones.Ops

/-!
# Starts of elements in a zone

The operations of a load up to the start of an element are listed here in the order in which they are
defined.  Whatever looks at the innermost open element stays in a zone that is sealed, so that nothing
in it leads outside, as long as the value of that element belongs to the zone.

* `Zone.IsSealed` is the condition on the zone, `Element.IsIn` and `Bundle.IsIn` say what belongs to
  it, and `Loader.StaysIn` is what is asked of type factories and engines.
* `classify_of` is where the innermost element decides what a tag stands for.
* `openElement` is the result: one more element is open, and it stands for what was found.
-/

namespace Bxml

/-- Whether the objects among the values of a zone may be changed, may be bound to each other, and have
only values of the zone in their properties. -/
structure Zone.IsSealed (Z : Zone) : Prop where
  object : ∀ {o}, Z.value (.object o) → Z.object o
  binding : ∀ {b : Binding}, Z.value (.object b.source) → Z.value (.object b.target) → Z.binding b
  property : ∀ {w}, Z.world w → ∀ {o}, Z.value (.object o) → ∀ {name v},
    (w.object o).getProperty name = .ok v → Z.value v

section

variable (Z : Zone)

/-- Whether the value and the attributes of an open element belong to a zone. -/
structure Element.IsIn (e : Element) : Prop where
  value : Z.value e.value
  attributes : e.attributes.All Z.value

/-- Whether the values of a bundle belong to a zone. -/
def Bundle.IsIn (b : Bundle) : Prop :=
  ∀ entries, BundleLayer.map entries ∈ b.layers → entries.All Z.value

/-- Whether the bundle of a document belongs to a zone. -/
def DocumentContext.IsIn (c : DocumentContext) : Prop := ∀ b, c.bundle = some b → b.IsIn Z

/-- Whether the value of the innermost open element belongs to a zone. -/
def TopIsIn (stack : List Element) : Prop := ∀ e, stack.head? = some e → Z.value e.value

/-- Whether a value that an attribute stands for belongs to a zone. -/
def AttributeValue.IsIn (a : AttributeValue) : Prop := ∀ v, a = .resolved v → Z.value v

/-- Whether the load of included documents stays in a zone and gives a value of it. -/
def NestedLoad.StaysIn (n : NestedLoad) : Prop :=
  ∀ (c : DocumentContext) parented source, c.IsIn Z →
    (n c parented source).StaysIn Z fun r => Z.value r.1.root

/-- Whether an element under way stands for what was found, with attributes that belong to a zone. -/
structure Attributed.Fits (found : Classified) (x : Attributed) : Prop where
  kind : x.element.kind = found.kind
  value : x.element.value = found.value
  attributes : x.element.attributes.All Z.value
  id : x.element.id.isSome = true → x.element.kind.acceptsId = true

/-- What an element takes its value from: a document the bundle of which belongs to a zone, what the
element was found to stand for, or something else in the zone. -/
inductive Origin.IsIn {α : Type} (nested : Option α) (found : Classified) : Origin α → Prop
  | inclusion {n : α} {i : Inclusion} : nested = some n → i.context.IsIn Z →
      IsIn nested found (.inclusion n i)
  | known {v : Value} : v = found.value ∨ Z.value v → IsIn nested found (.known v)

/-- Whether a document has one more open element, that was found to stand for something, and perhaps
some bindings of it. -/
structure Draft.Opens (d : Draft) (found : Classified → Prop) (e : Element)
    (pending : List PendingBinding) (d' : Draft) : Prop where
  stack : d'.stack = e :: d.stack
  bindings : d'.bindings = d.bindings ++ pending
  root : d'.root = d.root
  found : ∃ f, found f ∧ e.kind = f.kind ∧ (e.value = f.value ∨ Z.value e.value)
  attributes : e.attributes.All Z.value
  id : e.id.isSome = true → e.kind.acceptsId = true
  target : ∀ p ∈ pending, e.value = .object p.target

/-- Whether properties are set in a zone by what is outside of a load. -/
structure Loader.SetsIn (l : Loader) : Prop where
  host : l.host.StaysIn Z
  attach (h : Held) (owner property : String) {o : ObjectId} {v : Value} : Z.object o → Z.value v →
    (l.factory.attach h owner property o v).Stays Z

/-- Whether what is outside of a load stays in a zone. -/
structure Loader.StaysIn (l : Loader) : Prop extends l.SetsIn Z where
  evaluator {e : EngineId} {f : Evaluator} :
    (l.host.engine e).evaluator = some f → ∀ h source t, (f h source t).Stays Z
  hook (k : HookId) (h : Held) {o : ObjectId} (t : TableId) (u : Option Url) :
    Z.value (.object o) → (l.host.hook k h o t u).Stays Z
  construct (typeName : String) :
    (l.factory.construct typeName).StaysIn Z fun o => Z.value (.object o)

end

variable {Z : Zone} {l : Loader} {c : DocumentContext} {d : Draft}

theorem Zone.value_of_object? {v : Value} (hv : Z.value v) {o : ObjectId}
    (ho : v.object? = some o) : Z.value (.object o) := by
  rw [Value.object?_eq_some] at ho
  rwa [ho] at hv

/-! ## Faults -/

theorem stays_failAt {α : Type} {P : α → Prop} (at_ : Location) (f : StructureFault) :
    (failAt at_ f : Op LoadError α).StaysIn Z P := .throw _

theorem stays_orFail {α : Type} {P : α → Prop} (at_ : Location) (f : StructureFault)
    {a? : Option α} (h : ∀ a, a? = some a → P a) : (orFail at_ f a?).StaysIn Z P := by
  cases a? with
  | none => exact stays_failAt at_ f
  | some a => exact .pure (h a rfl)

theorem stays_require (at_ : Location) (f : StructureFault) (p : Bool) :
    (require at_ f p).StaysIn Z fun _ => p = true :=
  .ite (fun h => .pure h) fun _ => stays_failAt _ _

theorem stays_objectOr (at_ : Location) (f : StructureFault) {v : Value} {P : ObjectId → Prop}
    (h : ∀ o, v.object? = some o → P o) : (objectOr at_ f v).StaysIn Z P := stays_orFail at_ f h

/-- An object that is a value of a zone has values of the zone in its properties. -/
theorem Zone.IsSealed.reads (hz : Z.IsSealed) {ε : Type} {o : ObjectId} (ho : Z.value (.object o)) :
    Op.StaysIn Z (fun x : Object => ∀ name v, x.getProperty name = .ok v → Z.value v)
      (.read (·.object o) : Op ε Object) :=
  .read fun _ hw _ _ hv => hz.property hw ho hv

/-! ## Bundles -/

mutual

/-- What a JSON value stands for is made anew. -/
theorem Json.toValue_in : ∀ (j : Json) {w : World}, Z.world w →
    Z.value (j.toValue w).1 ∧ Z.world (j.toValue w).2
  | .null, _, hw | .bool _, _, hw | .int _, _, hw | .float _, _, hw | .string _, _, hw =>
    ⟨Z.scalar rfl, hw⟩
  | .array items, _, hw => by
    have inner := Json.toValues_in items hw
    have made := Z.alloc inner.2 (.list inner.1)
    exact ⟨made.2.2, made.1⟩
  | .object fields, _, hw => by
    have inner := Json.toEntries_in fields hw
    have made := Z.alloc inner.2 (c := .dictionary ⟨Object.dictionaryType, _, none⟩)
      (.dictionary (.ofList inner.1))
    exact ⟨made.2.2, made.1⟩

theorem Json.toValues_in : ∀ (js : List Json) {w : World}, Z.world w →
    (∀ v ∈ (Json.toValues js w).1, Z.value v) ∧ Z.world (Json.toValues js w).2
  | [], _, hw => ⟨nofun, hw⟩
  | j :: r, _, hw => by
    have first := Json.toValue_in j hw
    have rest := Json.toValues_in r first.2
    exact ⟨List.forall_mem_cons.2 ⟨first.1, rest.1⟩, rest.2⟩

theorem Json.toEntries_in : ∀ (fs : List (String × Json)) {w : World}, Z.world w →
    (∀ p ∈ (Json.toEntries fs w).1, Z.value p.2) ∧ Z.world (Json.toEntries fs w).2
  | [], _, hw => ⟨nofun, hw⟩
  | (k, j) :: r, _, hw => by
    have first := Json.toValue_in j hw
    have rest := Json.toEntries_in r first.2
    exact ⟨List.forall_mem_cons.2 ⟨first.1, rest.1⟩, rest.2⟩

end

theorem Bundle.IsIn.lookup {b : Bundle} (hb : b.IsIn Z) (key : String) {w : World} (hw : Z.world w) :
    (∀ v, (b.lookup key w).1 = some v → Z.value v) ∧ Z.world (b.lookup key w).2 := by
  rw [Bundle.lookup_eq]
  cases hl : b.layers.find? (·.defines key) with
  | none => exact ⟨by rintro _ ⟨⟩, hw⟩
  | some layer =>
    cases layer with
    | map entries => exact ⟨hb entries (List.mem_of_find?_eq_some hl) key, hw⟩
    | json fields =>
      simp only [BundleLayer.find?]
      split
      · next j _ =>
        have made := Json.toValue_in j hw
        refine ⟨?_, made.2⟩
        rintro _ ⟨⟩
        exact made.1
      · exact ⟨by rintro _ ⟨⟩, hw⟩

theorem BundleLoader.stays_load (b : BundleLoader) (name : String) {parent : Option Bundle}
    (hp : ∀ p, parent = some p → p.IsIn Z) : (b.load name parent).StaysIn Z (Bundle.IsIn Z) := by
  unfold BundleLoader.load
  refine .bind (.ofExceptAny _) fun u _ => .bind (.ofExceptAny _) fun bytes _ => ?_
  refine .bind (.ofExceptAny _) fun _ _ => .bind (P := fun _ => True) ?overlays fun fields _ => ?own
  case overlays =>
    refine .foldlM trivial fun fields suffix _ => .bind (.ofExceptAny _) fun u _ => ?_
    refine .ite (fun _ => .bind (.log _ _) fun _ _ => ?_) fun _ => .pure trivial
    refine .bind (.ofExceptAny _) fun bytes _ => .bind (.ofExceptAny _) fun _ _ => ?_
    exact .bind (.forM fun _ _ => .log _ _) fun _ _ => .pure trivial
  case own =>
    refine .pure fun entries he => ?_
    cases parent with
    | some p =>
      rcases List.mem_cons.1 he with he | he
      · cases he
      · exact hp p rfl entries he
    | none => cases List.mem_singleton.1 he

/-! ## Attributes -/

namespace DocumentContext.IsIn

variable (hc : c.IsIn Z)

include hc

theorem resolveForm (form : AttributeForm) :
    (c.resolveForm form).StaysIn Z (AttributeValue.IsIn Z) := by
  have resolved {v : Value} (hv : Z.value v) : (AttributeValue.resolved v).IsIn Z := by
    rintro _ ⟨⟩
    exact hv
  cases form with
  | literal s => exact .pure (resolved (Z.scalar rfl))
  | binding expression => exact .pure nofun
  | location relative =>
    simp only [DocumentContext.resolveForm]
    split
    · exact .throw _
    · split
      · exact .pure (resolved (Z.scalar rfl))
      · exact .throw _
  | resource key =>
    refine .bind (P := fun v : Option Value => ∀ u, v = some u → Z.value u)
      (.make fun w hw => ?_) fun v hv => ?_
    · cases hb : c.bundle with
      | none => exact ⟨nofun, hw⟩
      | some b => exact (hc b hb).lookup key hw
    · cases v with
      | some v => exact .pure (resolved (hv v rfl))
      | none => exact .bind (.log _ _) fun _ _ => .pure (resolved (Z.scalar rfl))
  | null => exact .pure (resolved (Z.scalar rfl))
  | reference path =>
    have value : Op.StaysIn Z Z.value (Op.check (·.resolvePath c.table path)) :=
      .check fun w v hw hv => Z.resolve hw hv
    exact .bind (.mapError value _) fun v hv => .pure (resolved hv)

theorem resolveAttribute (raw : String) (at_ : Location) :
    (c.resolveAttribute raw at_).StaysIn Z (AttributeValue.IsIn Z) :=
  .bind (.mapError (.ofExceptAny _) _) fun form _ => hc.resolveForm form

/-! ## Inclusions -/

omit hc in
theorem includeSource (c : DocumentContext) (src : String) : (includeSource c src).Stays Z := by
  unfold Bxml.includeSource
  split
  · refine .ite (fun _ => .ite (fun _ => .pure trivial) fun _ => ?_) fun _ => .pure trivial
    exact .bind (.mapError (.checkAny _) _) fun v _ => .readAny _
  · exact .pure trivial

theorem includeBundle (l : Loader) (e : Element) :
    (includeBundle l c e).StaysIn Z fun b => ∀ x, b = some x → x.IsIn Z := by
  unfold Bxml.includeBundle
  split
  · exact .pure hc
  · split
    · exact stays_failAt _ _
    · next b _ =>
      refine .bind (.mapError (b.stays_load _ hc) _) fun x hx => .pure ?_
      rintro _ ⟨⟩
      exact hx

omit hc in
theorem includeCharset (l : Loader) (e : Element) : (includeCharset l e).Stays Z := by
  unfold Bxml.includeCharset
  split
  · exact .pure trivial
  · split
    · exact .pure trivial
    · exact .throw _

omit hc in
theorem includeTable (c : DocumentContext) (e : Element) : (includeTable c e).Stays Z :=
  .ite (fun _ => .pure trivial) fun _ => .make fun _ hw => ⟨trivial, Z.allocTable hw⟩

theorem prepareInclusion {α : Type} (l : Loader) (nested : Option α) (d : Draft) (e : Element) :
    (prepareInclusion l c nested d e).StaysIn Z fun x =>
      nested = some x.1 ∧ x.2.context.IsIn Z := by
  unfold Bxml.prepareInclusion
  refine .bind (P := fun _ => True) (stays_orFail _ _ fun _ _ => trivial) fun src _ => ?_
  refine .bind (includeSource c src) fun src _ => ?_
  refine .bind (P := fun n => nested = some n) (stays_orFail _ _ fun _ h => h) fun n hn => ?_
  refine .bind (hc.includeBundle l e) fun bundle hb => .bind (includeCharset l e) fun _ _ => ?_
  refine .bind (includeTable c e) fun t _ => .bind (.ofExceptAny _) fun u _ => ?_
  exact .bind (.log _ _) fun _ _ => .pure ⟨hn, hb⟩

end DocumentContext.IsIn

theorem NestedLoad.StaysIn.load {n : NestedLoad} (hn : n.StaysIn Z) {i : Inclusion}
    (hi : i.context.IsIn Z) (l : Loader) (parented : List ObjectId) :
    (i.load l n parented).StaysIn Z fun r => Z.value r.1 := by
  refine .mapError (.bind (.ofExceptAny _) fun source _ => ?_) _
  exact .bind (hn _ _ _ hi) fun x hx => .pure hx

/-! ## What elements stand for -/

theorem stays_classifyProperty (hz : Z.IsSealed) {stack : List Element} (hs : TopIsIn Z stack)
    (name : String) (at_ : Location) :
    (classifyProperty stack name at_).StaysIn Z fun f => Z.value f.value := by
  unfold classifyProperty
  refine .bind (stays_orFail _ _ hs) fun parent hp => ?_
  refine .bind (stays_objectOr _ _ fun _ => Zone.value_of_object? hp) fun o ho => ?_
  refine .bind (hz.reads ho) fun x hx => .ite (fun _ => .pure (Z.scalar rfl)) fun _ => ?_
  split
  · exact stays_failAt _ _
  · exact .pure (Z.scalar rfl)
  · refine .bind (.mapError (.ofExcept (hx _)) _) fun v hv => ?_
    exact .bind (stays_require _ _ _) fun _ _ => .pure hv
  · exact .pure (Z.scalar rfl)

theorem stays_resolveReference (c : DocumentContext) (e : Element) :
    (resolveReference c e).StaysIn Z Z.value := by
  refine .bind (P := fun _ => True) (stays_orFail _ _ fun _ _ => trivial) fun id _ => ?_
  refine .check fun w v hw hv => ?_
  have found : w.resolve c.table [id] = .ok v := by
    unfold World.resolve World.resolveIn
    split at hv
    · next hi =>
      cases hv
      simp only [hi, World.follow]
    · cases hv
  exact Z.resolve hw found

theorem stays_checkId (c : DocumentContext) (kind : ElementKind) (id : String) (at_ : Location) :
    (checkId c kind id at_).StaysIn Z fun _ => kind.acceptsId = true :=
  .bind (stays_require _ _ _) fun _ _ => .bind (.checkAny _) fun _ _ => stays_require _ _ _

/-- Attributes that are added to an element belong to the zone that the document knows. -/
theorem DocumentContext.IsIn.add (hc : c.IsIn Z) (uri : Option String) {found : Classified}
    {x : Attributed} (hx : x.Fits Z found) (a : Xml.MarkupAttribute) :
    (Attributed.add c uri x a).StaysIn Z (Attributed.Fits Z found) := by
  have addValue {v : Value} (hv : Z.value v) : (x.addValue a.name v).Fits Z found :=
    ⟨hx.kind, hx.value, hx.attributes.insert _ hv, hx.id⟩
  have resolved : (x.addResolved c a).StaysIn Z (Attributed.Fits Z found) := by
    refine .bind (hc.resolveAttribute _ _) fun v hv => ?_
    cases v with
    | resolved v => exact .pure (addValue (hv v rfl))
    | binding expression => exact .pure ⟨hx.kind, hx.value, hx.attributes, hx.id⟩
  unfold Attributed.add
  refine .ite (fun _ => ?id) fun _ =>
    .ite (fun _ => .pure ⟨hx.kind, hx.value, hx.attributes, hx.id⟩) fun _ => ?_
  case id =>
    refine .bind (stays_require _ _ _) fun _ _ => .bind (stays_checkId _ _ _ _) fun _ hk => ?_
    exact .pure ⟨hx.kind, hx.value, hx.attributes, fun _ => hk⟩
  · split
    · refine .bind (stays_require _ _ _) fun _ _ => ?_
      exact .pure ⟨hx.kind, hx.value, hx.attributes, hx.id⟩
    · split
      · exact .pure (addValue (Z.scalar rfl))
      · exact stays_failAt _ _
      · exact stays_failAt _ _
      · exact stays_failAt _ _
      · exact stays_failAt _ _
      · exact resolved
      · exact resolved
      · exact resolved
      · exact resolved

theorem stays_pendingBindings (x : Attributed) :
    (pendingBindings x).StaysIn Z fun bindings =>
      ∀ p ∈ bindings, x.element.value = .object p.target := by
  refine .ite (fun _ => .pure nofun) fun _ => .bind (stays_require _ _ _) fun _ _ => ?_
  refine .bind (stays_objectOr _ _ fun o ho => Value.object?_eq_some.1 ho) fun o ho => .pure ?_
  intro p hp
  obtain ⟨_, -, rfl⟩ := List.mem_map.1 hp
  exact ho

theorem Draft.stays_push (d : Draft) {found : Classified → Prop} {f : Classified} (hf : found f)
    {x : Attributed} (hx : x.Fits Z f) {v : Value} (hv : v = f.value ∨ Z.value v)
    (parented : List ObjectId) :
    (d.push x v parented).StaysIn Z fun d' => ∃ e bindings, d.Opens Z found e bindings d' :=
  .bind (stays_pendingBindings { x with element := { x.element with value := v } })
    fun bindings hb => .pure ⟨{ x.element with value := v }, bindings, rfl, rfl, rfl,
      ⟨f, hf, hx.kind, hv⟩, hx.attributes, hx.id, hb⟩

namespace Loader.StaysIn

variable (hl : l.StaysIn Z)

include hl

/-- What a property stands for decides what any element inside the given ones may stand for. -/
theorem classify_of {stack : List Element} {at_ : Location} {found : Classified → Prop}
    (hf : ∀ f, Z.value f.value → found f)
    (hp : ∀ name, (classifyProperty stack name at_).StaysIn Z found) (tag : Xml.StartTag) :
    (Bxml.classify l stack tag at_).StaysIn Z found := by
  have null (k : ElementKind) (name : String) : found ⟨k, name, .null⟩ := hf _ (Z.scalar rfl)
  unfold Bxml.classify
  refine .ite (fun _ => ?control) fun _ => ?_
  case control =>
    refine .bind (stays_require _ _ _) fun _ _ => ?_
    exact .bind (P := fun _ => True) (stays_orFail _ _ fun _ _ => trivial) fun _ _ => .pure (null _ _)
  · split
    · refine .bind (P := fun _ => True) (stays_orFail _ _ fun _ _ => trivial) fun parent _ => ?_
      refine .bind (P := fun _ => True) (stays_objectOr _ _ fun _ _ => trivial) fun _ _ => ?_
      exact .pure (null _ _)
    · refine .ite (fun _ => ?_) fun _ => .ite (fun _ => stays_failAt _ _) fun _ => hp _
      refine .bind (.mapError (hl.construct _) _) fun o ho => .bind (.log _ _) fun _ _ => ?_
      exact .pure (hf _ ho)

theorem classify (hz : Z.IsSealed) {stack : List Element} (hs : TopIsIn Z stack)
    (tag : Xml.StartTag) (at_ : Location) :
    (classify l stack tag at_).StaysIn Z fun f => Z.value f.value :=
  hl.classify_of (fun _ => id) (fun name => stays_classifyProperty hz hs name at_) tag

omit hl in
/-- Once it is known what an element stands for, only its attributes matter. -/
theorem startElement (hc : c.IsIn Z) {α : Type} (nested : Option α) {found : Classified → Prop}
    {tag : Xml.StartTag} {at_ : Location} (hf : (Bxml.classify l d.stack tag at_).StaysIn Z found) :
    (startElement l c nested d tag at_).StaysIn Z fun x =>
      ∃ f, found f ∧ x.1.Fits Z f ∧ x.2.IsIn Z nested f := by
  unfold Bxml.startElement
  refine .bind hf fun f hf => ?_
  have new : (⟨.new f.kind f.name f.value at_, []⟩ : Attributed).Fits Z f :=
    ⟨rfl, rfl, .empty, nofun⟩
  refine .bind (P := fun x => x.Fits Z f) (.foldlM new fun x a hx => hc.add _ hx a) fun x hx => ?_
  split
  · refine .bind (hc.prepareInclusion l nested d _) fun y hy => ?_
    exact .pure ⟨f, hf, hx, .inclusion hy.1 hy.2⟩
  · refine .bind (stays_resolveReference _ _) fun v hv => .pure ⟨f, hf, hx, .known (.inr hv)⟩
  · exact .pure ⟨f, hf, hx, .known (.inl hx.value)⟩

omit hl in
/-- The start of an element adds one that was found to stand for something. -/
theorem openElement (hc : c.IsIn Z) {nested : Option NestedLoad}
    (hn : ∀ n, nested = some n → NestedLoad.StaysIn Z n) {found : Classified → Prop}
    {tag : Xml.StartTag} {at_ : Location} (hf : (Bxml.classify l d.stack tag at_).StaysIn Z found) :
    (d.openElement l c nested tag at_).StaysIn Z fun d' =>
      ∃ e bindings, d.Opens Z found e bindings d' := by
  unfold Draft.openElement
  refine .bind (@startElement Z l c (d.settleLanguage l) hc _ nested _ tag at_ hf) fun x hx => ?_
  obtain ⟨x, origin⟩ := x
  obtain ⟨f, hf, fits, hx⟩ := hx
  have pushed {v : Value} (hv : v = f.value ∨ Z.value v) (parented : List ObjectId) :
      ((d.settleLanguage l).push x v parented).StaysIn Z fun d' =>
        ∃ e bindings, d.Opens Z found e bindings d' := by
    refine .mono ((d.settleLanguage l).stays_push hf fits hv parented) ?_
    rintro d' ⟨e, bindings, h⟩
    exact ⟨e, bindings, h.stack, h.bindings, h.root, h.found, h.attributes, h.id, h.target⟩
  cases hx with
  | inclusion hnested hi =>
    exact .bind ((hn _ hnested).load hi l _) fun y hy => pushed (.inr hy) y.2
  | known hv => exact pushed hv _

end Loader.StaysIn

end Bxml
