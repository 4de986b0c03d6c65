import Bxml.Proofs.Load.Errors
import Bxml.Proofs.Load.Handing
import Bxml.Proofs.World.Listeners

/-!
# What open elements hold

Later steps of a load trust what the start of an element has seen.  They may: the outermost element
is an instance, instances and includes hold objects, and a property stays inside the object it was
found in for as long as it is open.  Values are put only into the innermost element, so what is said
of an element and those around it need only be shown when it starts.

* `Element.IsSoundIn` is what holds of an open element and those around it, `Draft.IsSound` of all
  of them.  Listener elements need the world too, and have `Element.ListensIn`.
* `Everywhere.step` is the reason why one element at a time will do: a predicate that is
  `Refillable`, so that it does not depend on what is put into an element, need only be shown when
  an element starts.
* `Draft.isSoundIn_of_start` shows it, with one lemma for each case of `classify`; `IsSound.step`
  and `IsSound.takeEvents` carry it through a load, and `givesObjects_deeper` through included
  documents.
-/

namespace Bxml

variable {l : Loader} {c : DocumentContext} {nested : Option NestedLoad} {d d' : Draft} {w w' : World}
  {x : Xml.Located}

/-! ## Elements and those around them -/

/-- Whether an element of this kind sets something on the object around it when it ends. -/
def ElementKind.setsOnOwner : ElementKind → Bool
  | .writable | .attached | .listeners => true
  | _ => false

/-- Whether `P` holds of every open element and those around it. -/
def Everywhere (P : List Element → Element → Prop) : List Element → Prop
  | [] => True
  | e :: outer => P outer e ∧ Everywhere P outer

/-- What holds of an open element inside the given ones. -/
structure Element.IsSoundIn (outer : List Element) (e : Element) : Prop where
  outermost : outer = [] → e.kind = .instanceOf
  holds : e.kind = .instanceOf ∨ e.kind = .inclusion → e.value.object?.isSome = true
  around : e.kind.setsOnOwner = true → (owner? outer).isSome = true
  /-- Only what holds an object has attached attributes. -/
  accepts : e.attached ≠ [] → e.kind.acceptsAttached = true
  /-- The name of an attached property can be told apart at its last dot. -/
  named : e.kind = .attached → ∃ owner property, e.name = qualified owner property ∧
    pathSeparator ∉ property.toList

/-- Whether a listener element is inside an object with a list of its name. -/
def Element.ListensIn (w : World) (outer : List Element) (e : Element) : Prop :=
  e.kind = .listeners → ∃ o, owner? outer = some o ∧ w.Lists o e.name

/-- What holds of a document under construction. -/
structure Draft.IsSound (d : Draft) : Prop where
  stack : Everywhere Element.IsSoundIn d.stack
  root : ∀ v, d.root = some v → v.object?.isSome = true

/-- Whether what holds of an element does so when something else is put into it. -/
def Refillable (P : List Element → Element → Prop) : Prop :=
  ∀ outer e v text, P outer e → v = e.value ∨ e.kind.takesValue = true →
    P outer { e with value := v, text := text }

theorem Element.isSoundIn_refill : Refillable IsSoundIn := by
  intro outer e v text h hv
  refine { h with holds := fun hk => ?_ }
  rcases hv with rfl | ht
  · exact h.holds hk
  · exfalso
    rcases hk with hk | hk
    · rw [show e.kind = .instanceOf from hk] at ht
      cases ht
    · rw [show e.kind = .inclusion from hk] at ht
      cases ht

theorem Element.listensIn_refill (w : World) : Refillable (ListensIn w) :=
  fun _ _ _ _ h _ => h

theorem Everywhere.mono {P Q : List Element → Element → Prop} (h : ∀ outer e, P outer e → Q outer e)
    {stack : List Element} (hs : Everywhere P stack) : Everywhere Q stack := by
  induction stack with
  | nil => trivial
  | cons e outer ih => exact ⟨h outer e hs.1, ih hs.2⟩

/-- What holds of open elements and does not depend on what is put into them need only be shown of
the element that starts. -/
theorem Everywhere.step {P : List Element → Element → Prop} (hP : Refillable P)
    (hd : Everywhere P d.stack) (h : (d.step l c nested x).runIn w = (.ok d', w'))
    (start : ∀ tag e, x.event = .start tag → d'.stack = e :: d.stack → P d.stack e) :
    Everywhere P d'.stack := by
  cases he : x.event with
  | start tag =>
    obtain ⟨e, hs, -⟩ := Draft.stack_of_start he h
    rw [hs]
    exact ⟨start tag e he hs, hd⟩
  | close =>
    obtain ⟨e, outer, hs, hd'⟩ := Draft.stack_of_close he h
    rw [hs] at hd
    rcases hd' with hd' | ⟨-, p, rest, rfl, hp, hd'⟩
    · rw [hd']
      exact hd.2
    · rw [hd']
      exact ⟨hP rest p e.value p.text hd.2.1 (.inr hp), hd.2.2⟩
  | instruction target data =>
    rw [Draft.stack_of_instruction he h]
    exact hd
  | characters text =>
    rw [Draft.step_of_characters he] at h
    obtain rfl | ⟨e, outer, v, hs, hv, rfl⟩ := Draft.addText_eq_ok h
    · exact hd
    · rw [hs] at hd
      exact ⟨hP outer e v (some text) hd.1 (hv.imp_right And.left), hd.2⟩

/-! ## What an element stands for -/

/-- What holds of what an element stands for inside the given ones. -/
structure Classified.IsSoundIn (w : World) (stack : List Element) (found : Classified) : Prop where
  outermost : stack = [] → found.kind = .instanceOf
  holds : found.kind = .instanceOf → found.value.object?.isSome = true
  around : found.kind.setsOnOwner = true → (owner? stack).isSome = true
  named : found.kind = .attached → ∃ owner property, found.name = qualified owner property ∧
    pathSeparator ∉ property.toList
  lists : found.kind = .listeners → ∃ o, owner? stack = some o ∧ w.Lists o found.name

theorem controlKind?_eq_some {name : String} {k : ElementKind} (h : controlKind? name = some k) :
    k = .inclusion ∨ k = .script ∨ k = .definition ∨ k = .reference := by
  unfold controlKind? at h
  split at h
  · cases h
    exact .inl rfl
  · split at h
    · cases h
      exact .inr (.inl rfl)
    · split at h
      · cases h
        exact .inr (.inr (.inl rfl))
      · split at h
        · cases h
          exact .inr (.inr (.inr rfl))
        · cases h

theorem not_mem_of_splitAttached? {name owner property : String}
    (h : splitAttached? name = some (owner, property)) : pathSeparator ∉ property.toList := by
  unfold splitAttached? at h
  dsimp only at h
  split at h
  · split at h
    · next hm =>
      cases h
      simp only [Bool.and_eq_true, Bool.not_eq_true', List.contains_eq_mem,
        decide_eq_false_iff_not] at hm
      rw [String.toList_ofList]
      exact hm.2
    · cases h
  · cases h

section

variable {stack : List Element} {at_ : Location} {found : Classified}

theorem objectOr_eq_ok {f : StructureFault} {v : Value} {o : ObjectId}
    (h : (objectOr at_ f v).runIn w = (.ok o, w')) : v.object? = some o ∧ w' = w :=
  orFail_runIn_eq_ok h

/-- Only a bean declares listeners, and what it declares is there. -/
theorem World.lists_of_propertyKind {o : ObjectId} {name : String} {i : Interface}
    (h : (w.object o).propertyKind name = some (.listeners i)) : w.Lists o name := by
  unfold World.Lists Object.listeners?
  unfold Object.propertyKind at h
  split at h
  · next b hb =>
    obtain ⟨s, hs, hk⟩ := Option.map_eq_some_iff.1 h
    rw [hb]
    dsimp only
    rw [hs]
    cases s with
    | listeners list => rfl
    | writable t v => cases hk
    | readOnly v => cases hk
  · cases h
  · split at h
    · cases h
    · obtain ⟨_, -, hk⟩ := Option.map_eq_some_iff.1 h
      cases hk

theorem classifyControl_isSoundIn {name : String}
    (h : (classifyControl stack name at_).runIn w = (.ok found, w')) : found.IsSoundIn w stack := by
  simp only [classifyControl, Op.bind_runIn_eq_ok, require_eq_ok] at h
  obtain ⟨_, _, ⟨inner, rfl⟩, kind, _, hk, h⟩ := h
  cases h
  have nonempty : stack ≠ [] := by
    rintro rfl
    cases inner
  obtain rfl | rfl | rfl | rfl := controlKind?_eq_some (orFail_runIn_eq_ok hk).1
  all_goals
    refine ⟨fun hs => absurd hs nonempty, ?_, ?_, ?_, ?_⟩ <;> intros <;> contradiction

theorem classifyAttached_isSoundIn {tag : Xml.StartTag} {owner property : String}
    (hp : pathSeparator ∉ property.toList)
    (h : (classifyAttached stack tag owner property at_).runIn w = (.ok found, w')) :
    found.IsSoundIn w stack := by
  simp only [classifyAttached, Op.bind_runIn_eq_ok] at h
  obtain ⟨parent, _, hp', o, _, ho, h⟩ := h
  have head := (orFail_runIn_eq_ok hp').1
  cases h
  have owned : owner? stack = some o := by
    unfold owner?
    rw [head]
    exact (objectOr_eq_ok ho).1
  constructor
  case outermost =>
    rintro rfl
    cases head
  case holds => rintro ⟨⟩
  case around => exact fun _ => Option.isSome_iff_exists.2 ⟨o, owned⟩
  case named => exact fun _ => ⟨_, _, rfl, hp⟩
  case lists => rintro ⟨⟩

theorem classifyInstance_isSoundIn {tag : Xml.StartTag}
    (h : (classifyInstance l tag).runIn w = (.ok found, w')) : found.IsSoundIn w stack := by
  simp only [classifyInstance, Op.bind_runIn_eq_ok] at h
  obtain ⟨o, _, -, _, _, -, h⟩ := h
  cases h
  refine ⟨fun _ => rfl, fun _ => rfl, ?_, ?_, ?_⟩ <;> intros <;> contradiction

theorem classifyProperty_isSoundIn {name : String}
    (h : (classifyProperty stack name at_).runIn w = (.ok found, w')) : found.IsSoundIn w stack := by
  simp only [classifyProperty, Op.bind_runIn_eq_ok] at h
  obtain ⟨parent, _, hp, o, _, ho, x, _, hx, h⟩ := h
  obtain ⟨head, rfl⟩ := orFail_runIn_eq_ok hp
  obtain ⟨value, rfl⟩ := objectOr_eq_ok ho
  cases hx
  have owned : owner? stack = some o := by
    unfold owner?
    rw [head]
    exact value
  have outermost {k : ElementKind} (hs : stack = []) : k = .instanceOf := by
    rw [hs] at head
    cases head
  have around : (owner? stack).isSome = true := Option.isSome_iff_exists.2 ⟨o, owned⟩
  split at h
  · cases h
    refine ⟨outermost, ?_, fun _ => around, ?_, ?_⟩ <;> intros <;> contradiction
  · split at h
    · cases h
    · next hl =>
      cases h
      constructor
      case outermost => exact outermost
      case holds => rintro ⟨⟩
      case around => exact fun _ => around
      case named => rintro ⟨⟩
      case lists => exact fun _ => ⟨o, owned, World.lists_of_propertyKind hl⟩
    · simp only [classifyReadOnly, Op.bind_runIn_eq_ok] at h
      obtain ⟨_, _, -, _, _, -, h⟩ := h
      cases h
      refine ⟨outermost, ?_, ?_, ?_, ?_⟩ <;> intros <;> contradiction
    · cases h
      refine ⟨outermost, ?_, fun _ => around, ?_, ?_⟩ <;> intros <;> contradiction

theorem classify_isSoundIn {tag : Xml.StartTag}
    (h : (classify l stack tag at_).runIn w = (.ok found, w')) : found.IsSoundIn w stack := by
  unfold classify at h
  split at h
  · exact classifyControl_isSoundIn h
  · split at h
    · next hs => exact classifyAttached_isSoundIn (not_mem_of_splitAttached? hs) h
    · split at h
      · exact classifyInstance_isSoundIn h
      · split at h
        · cases h
        · exact classifyProperty_isSoundIn h

end

/-! ## Starts -/

/-- Attached attributes are added only where they are accepted. -/
theorem Attributed.attached_of_add {uri : Option String} {y z : Attributed} {a : Xml.MarkupAttribute}
    (h : (Attributed.add c uri y a).runIn w = (.ok z, w')) :
    z.element.attached = y.element.attached ∨ y.element.kind.acceptsAttached = true := by
  have resolved (h : (y.addResolved c a).runIn w = (.ok z, w')) :
      z.element.attached = y.element.attached := by
    simp only [Attributed.addResolved, Op.bind_runIn_eq_ok] at h
    obtain ⟨u | expression, _, -, h⟩ := h
    · cases h
      rfl
    · cases h
      rfl
  unfold Attributed.add at h
  dsimp only at h
  split at h
  · simp only [Attributed.addId, Op.bind_runIn_eq_ok] at h
    obtain ⟨_, _, -, _, _, -, h⟩ := h
    cases h
    exact .inl rfl
  · split at h
    · cases h
      exact .inl rfl
    · split at h
      · simp only [Attributed.addAttached, Op.bind_runIn_eq_ok, require_eq_ok] at h
        obtain ⟨_, _, ⟨hk, -⟩, -⟩ := h
        exact .inr hk
      · split at h
        · cases h
          exact .inl rfl
        · cases h
        · cases h
        · cases h
        · cases h
        · exact .inl (resolved h)
        · exact .inl (resolved h)
        · exact .inl (resolved h)
        · exact .inl (resolved h)

theorem Attributed.accepts_of_foldlM_add {uri : Option String} {as : List Xml.MarkupAttribute}
    {y z : Attributed} (h : (as.foldlM (Attributed.add c uri) y).runIn w = (.ok z, w'))
    (hy : y.element.attached ≠ [] → y.element.kind.acceptsAttached = true)
    (hz : z.element.attached ≠ []) : z.element.kind.acceptsAttached = true := by
  induction as generalizing y w with
  | nil =>
    cases h
    exact hy hz
  | cons a as ih =>
    rw [List.foldlM_cons, Op.bind_runIn_eq_ok] at h
    obtain ⟨u, v, ha, h⟩ := h
    have kind : u.element.kind = y.element.kind := by cases Attributed.takes_of_add ha <;> rfl
    refine ih h fun hu => ?_
    rw [kind]
    obtain same | accepted := Attributed.attached_of_add ha
    · exact hy (same ▸ hu)
    · exact accepted

/-- What loads included documents gives objects. -/
def GivesObjects (nested : Option NestedLoad) : Prop :=
  ∀ n, nested = some n → ∀ c parented source w o p v,
    (n c parented source).runIn w = (.ok (o, p), v) → o.root.object?.isSome = true

/-- An element that starts is sound, and inside a list of its name if it is for listeners. -/
theorem Draft.isSoundIn_of_start (hn : GivesObjects nested) {tag : Xml.StartTag}
    (hx : x.event = .start tag) (h : (d.step l c nested x).runIn w = (.ok d', w')) :
    ∃ e, d'.stack = e :: d.stack ∧ e.IsSoundIn d.stack ∧ e.ListensIn w d.stack := by
  rw [Draft.step_of_start hx] at h
  -- the value of an element is that of the included document, or what it stands for
  have sound {y : Attributed} {v : Value} {found : Classified} {u z : World}
      (hf : found.IsSoundIn w d.stack)
      (hy : (tag.attributes.foldlM (Attributed.add c tag.namespaceUri)
        ⟨.new found.kind found.name found.value x.location, []⟩).runIn u = (.ok y, z))
      (hv : found.kind = .instanceOf ∨ found.kind = .inclusion → v.object?.isSome = true) :
      { y.element with value := v }.IsSoundIn d.stack ∧
        { y.element with value := v }.ListensIn w d.stack := by
    have kind : y.element.kind = found.kind := (Attributed.found_of_foldlM_add hy).1
    have name : y.element.name = found.name := (Attributed.found_of_foldlM_add hy).2.1
    have accepts := Attributed.accepts_of_foldlM_add hy (fun h => absurd rfl h)
    refine ⟨⟨fun hs => kind.trans (hf.outermost hs), fun hk => hv (kind ▸ hk),
      fun hk => hf.around ?around, accepts, fun hk => ?named⟩, fun hk => ?lists⟩
    case around => rw [← kind]; exact hk
    case named =>
      change ∃ owner property, y.element.name = qualified owner property ∧ _
      rw [name]
      exact hf.named (kind.symm.trans hk)
    case lists =>
      change ∃ o, owner? d.stack = some o ∧ w.Lists o y.element.name
      rw [name]
      exact hf.lists (kind.symm.trans hk)
  obtain ⟨y, u, ⟨n, i, v, parented, z, hs, hl, hp⟩ | ⟨v, hs, hp⟩⟩ := openElement_eq_ok h
  · obtain ⟨-, bindings, rfl⟩ := push_eq_ok hp
    obtain ⟨found, _, _, hf, hy, -⟩ := startElement_eq_ok hs
    obtain ⟨source, outcome, -, loaded, rfl⟩ := Inclusion.load_eq_ok hl
    obtain ⟨_, hi⟩ := startElement_inclusion hs
    have held := hn n (prepareInclusion_fst hi) _ _ _ _ _ _ _ loaded
    exact ⟨_, rfl, sound (classify_isSoundIn hf) hy fun _ => held⟩
  · obtain ⟨-, bindings, rfl⟩ := push_eq_ok hp
    obtain ⟨found, _, _, hf, hy, origin⟩ := startElement_eq_ok hs
    have classified := classify_isSoundIn hf
    refine ⟨_, rfl, sound classified hy fun hk => ?_⟩
    obtain ⟨hr, -⟩ | ⟨hi, -, rfl, -⟩ := origin
    · rw [hr] at hk
      exact absurd hk (by decide)
    · rw [(Attributed.found_of_foldlM_add hy).2.2.1]
      exact classified.holds (hk.resolve_right hi)

/-! ## Runs -/

@[simp] theorem Draft.root_setValue (v : Value) : (d.setValue v).root = d.root := by
  unfold Draft.setValue
  split <;> rfl

theorem closeAs_root {e : Element} (h : (closeAs l c d e).runIn w = (.ok d', w')) :
    d'.root = d.root := by
  cases hk : e.kind.isComposed with
  | false => rw [closeAs_of_not_isComposed hk h]
  | true =>
    rw [closeAs_of_isComposed hk] at h
    simp only [Op.bind_runIn_eq_ok] at h
    obtain ⟨_, _, -, d₁, _, hc, _, _, -, h⟩ := h
    cases h
    obtain ⟨-, rfl, -⟩ | ⟨r, parented, -, -, hr⟩ := compose_eq_ok hc
    · rfl
    · rw [Receiver.take_eq_ok hr]
      cases r with
      | object o => rfl
      | element => exact Draft.root_setValue e.value

/-- Only the end of the outermost element makes a root. -/
theorem Draft.root_of_step (h : (d.step l c nested x).runIn w = (.ok d', w')) :
    d'.root = d.root ∨ ∃ e, d.stack = [e] ∧ d'.root = some e.value := by
  cases he : x.event with
  | start tag =>
    rw [step_of_start he] at h
    obtain ⟨y, u, ⟨_, _, _, _, _, -, -, hp⟩ | ⟨_, -, hp⟩⟩ := openElement_eq_ok h
    all_goals
      obtain ⟨-, bindings, rfl⟩ := push_eq_ok hp
      exact .inl rfl
  | instruction target data =>
    rw [step_of_instruction he] at h
    rw [addInstruction_eq_ok h]
    exact .inl rfl
  | characters text =>
    rw [step_of_characters he] at h
    obtain rfl | ⟨e, outer, v, -, -, rfl⟩ := addText_eq_ok h
    · exact .inl rfl
    · exact .inl rfl
  | close =>
    rw [step_of_close he] at h
    obtain ⟨e, outer, d₁, u, hs, hc, -, hd⟩ := closeElement_eq_ok h
    rw [hd]
    split
    · next empty =>
      have outermost : outer.isEmpty = d₁.stack.isEmpty :=
        (Draft.isEmpty_stack_of_kinds (closeAs_shape hc).1).symm
      rw [empty, List.isEmpty_iff] at outermost
      exact .inr ⟨e, by rw [hs, outermost], rfl⟩
    · have root := closeAs_root hc
      exact .inl root

namespace Draft.IsSound

theorem start (parented : List ObjectId) : (Draft.start parented).IsSound where
  stack := trivial
  root _ h := by cases h

/-- What an event does leaves a sound document sound. -/
theorem step (hd : d.IsSound) (hn : GivesObjects nested)
    (h : (d.step l c nested x).runIn w = (.ok d', w')) : d'.IsSound where
  stack := by
    refine hd.stack.step Element.isSoundIn_refill h fun tag e hx hs => ?_
    obtain ⟨e', hs', sound, -⟩ := isSoundIn_of_start hn hx h
    obtain ⟨rfl, -⟩ := List.cons.inj (hs.symm.trans hs')
    exact sound
  root := by
    intro v hv
    obtain same | ⟨e, hs, root⟩ := root_of_step h
    · exact hd.root v (same ▸ hv)
    · rw [root] at hv
      cases hv
      have sound := hd.stack
      rw [hs] at sound
      exact sound.1.holds (.inl (sound.1.outermost rfl))

theorem takeEvents (hd : d.IsSound) (hn : GivesObjects nested) {items : List Xml.Located}
    (h : (takeEvents l c nested d items).runIn w = (.ok d', w')) : d'.IsSound :=
  takeEvents_preserves (P := IsSound) (fun _ _ _ _ _ _ hd hs => hd.step hn hs) hd h

end Draft.IsSound

/-- Every document that is loaded has an object as its root. -/
theorem givesObjects_deeper (l : Loader) (n : Nat) : GivesObjects (l.deeper n) := by
  have loads {nested : Option NestedLoad} (hn : GivesObjects nested) :
      GivesObjects (some (loadWith l nested)) := by
    rintro _ ⟨⟩ c parented source w o p v h
    rw [loadWith_runIn, Op.bind_runIn_eq_ok] at h
    obtain ⟨d, u, taken, completed⟩ := h
    exact ((Draft.IsSound.start parented).takeEvents hn taken).root _
      (Draft.complete_eq_ok completed).2.1
  induction n with
  | zero =>
    intro n h
    cases h
  | succ n ih =>
    change GivesObjects (some (loadNested l n))
    rw [loadNested_eq]
    exact loads ih

end Bxml
