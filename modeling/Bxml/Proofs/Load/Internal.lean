import Bxml.Proofs.Load.Holding
import Bxml.Types.Registry

/-!
# Internal faults

Some faults are for open elements that do not hold what they should.  Open elements are sound in
every state that events lead to, so that none of these arises, provided that nobody takes the listener
lists of objects away.

`isSound_of_load` is the result.  It says of every state what `Draft.IsSound` says, of listener
elements that they are in objects with a list of their name, of a dotted name of an open property
that it divides into the two names that were written, and of every failure that it is not internal.
`Load/Holding.lean` has the invariant and `Load/Errors.lean` the failures; here they are put
together, event by event (`not_isInternal_of_step`) and document by document.
-/

namespace Bxml

variable {l : Loader} {c : DocumentContext} {nested : Option NestedLoad} {d d' : Draft} {w w' : World}
  {x : Xml.Located}

/-! ## Failures -/

/-- The end of an element fails in the ordinary way, unless it is for listeners without a list. -/
theorem closeAs_error {e : Element} (he : e.IsSoundIn d.stack) {f : LoadError}
    (h : (closeAs l c d e).runIn w = (.error f, w')) :
    f.IsOrdinary ∨ e.kind = .listeners ∧ ∃ o, owner? d.stack = some o ∧
      (w.object o).listeners? e.name = none ∧
      f = .structural (.noListenerList e.name (w.object o).typeName) e.location := by
  have fails {α : Type} {y : Op LoadError α} (hy : y.IsOrdinary) (hr : y.runIn w = (.error f, w')) :
      f.IsOrdinary := hy w f w' hr
  have composed (hk : e.kind.isComposed = true) : f.IsOrdinary := by
    rw [closeAs_of_isComposed hk] at h
    refine fails (.bind (isOrdinary_applyAttributes l _ e) fun _ => ?_) h
    refine .bind (isOrdinary_compose l c _ e) fun d₁ => .bind ?_ fun _ => .pure _
    refine isOrdinary_applyAttachedAttributes l c _ _ fun ha => he.holds ?_
    have accepts := he.accepts ha
    cases hkind : e.kind with
    | instanceOf => exact .inl rfl
    | inclusion => exact .inr rfl
    | _ =>
      rw [hkind] at accepts
      cases accepts
  unfold closeAs at h
  cases hk : e.kind with
  | instanceOf | inclusion | reference => exact .inl (composed (by rw [hk]; rfl))
  | readOnly =>
    rw [hk] at h
    exact .inl (fails (.bind (isOrdinary_applyAttributes l _ e) fun _ => .pure _) h)
  | writable =>
    rw [hk] at h
    obtain ⟨o, ho⟩ := Option.isSome_iff_exists.1 (he.around (by rw [hk]; rfl))
    dsimp only at h
    rw [ho, orFail_some, pure_bind] at h
    exact .inl (fails (.bind (.mapError (fun _ => trivial) _) fun _ => .pure _) h)
  | attached =>
    rw [hk] at h
    have around := he.around (by rw [hk]; rfl)
    obtain ⟨owner, property, name, dotless⟩ := he.named hk
    have split := splitQualified?_qualified owner dotless
    rw [← name] at split
    exact .inl (fails (.bind (isOrdinary_applyAttachedElement l _ around split) fun _ => .pure _) h)
  | listeners =>
    rw [hk] at h
    obtain ⟨o, ho⟩ := Option.isSome_iff_exists.1 (he.around (by rw [hk]; rfl))
    dsimp only at h
    rcases Op.bind_runIn_eq_error.1 h with h | ⟨_, _, -, h⟩
    · obtain ordinary | ⟨hl, hf⟩ := installAdapter_error ho h
      · exact .inl ordinary
      · exact .inr ⟨rfl, o, ho, hl, hf⟩
    · cases h
  | script =>
    rw [hk] at h
    exact .inl (fails (.bind (isOrdinary_runScript l c _ _ e) fun _ => .pure _) h)
  | definition =>
    rw [hk] at h
    cases h

theorem Draft.closeElement_error (hd : d.IsSound) {at_ : Location} {f : LoadError}
    (h : (d.closeElement l c at_).runIn w = (.error f, w')) :
    f.IsOrdinary ∨ ∃ e outer o, d.stack = e :: outer ∧ e.kind = .listeners ∧
      owner? outer = some o ∧ (w.object o).listeners? e.name = none ∧
      f = .structural (.noListenerList e.name (w.object o).typeName) e.location := by
  unfold closeElement at h
  cases hs : d.stack with
  | nil =>
    rw [hs] at h
    cases h
    exact .inl rfl
  | cons e outer =>
    have sound := hd.stack
    rw [hs] at h sound
    rcases Op.bind_runIn_eq_error.1 h with h | ⟨d₁, u, -, h⟩
    · obtain ordinary | ⟨hk, o, ho, hl, hf⟩ := closeAs_error sound.1 h
      · exact .inl ordinary
      · exact .inr ⟨e, outer, o, rfl, hk, ho, hl, hf⟩
    · have registered : Op.IsOrdinary (do
          registerId l c (d₁.held c e.heldValues) e
          return if d₁.stack.isEmpty then { d₁ with root := some e.value } else d₁) :=
        .bind (isOrdinary_registerId _ e) fun _ => .pure _
      exact .inl (registered u f w' h)

namespace Moment

variable {m : Moment} {f : LoadError}

/-- A listener element of the moment is inside an object without a list of its name. -/
def Unlisted (m : Moment) (f : LoadError) : Prop :=
  ∃ e outer o, m.draft.stack = e :: outer ∧ e.kind = .listeners ∧ owner? outer = some o ∧
    (m.world.object o).listeners? e.name = none ∧
    f = .structural (.noListenerList e.name (m.world.object o).typeName) e.location

/-- An event fails by itself, in the document that it includes, or because of a listener list that
is not there. -/
theorem result_error (hd : m.draft.IsSound) (h : m.result l = (.error f, w')) :
    IsBeyond l m.nested f ∨
      (∃ n i v, m.included? l = some (n, i, v) ∧
        (i.load l n m.draft.parented).runIn v = (.error f, w')) ∨ m.Unlisted f := by
  cases he : m.event.event with
  | instruction target data =>
    unfold result at h
    rw [Draft.step_of_instruction he] at h
    exact .inl (.inl (Draft.isOrdinary_addInstruction _ _ _ _ _ _ _ h))
  | characters text =>
    unfold result at h
    rw [Draft.step_of_characters he] at h
    have held (e : Element) (outer : List Element) (hs : m.draft.stack = e :: outer)
        (hk : e.kind = .instanceOf) : e.value.object?.isSome = true := by
      have sound := hd.stack
      rw [hs] at sound
      exact sound.1.holds (.inl hk)
    exact .inl (.inl (Draft.isOrdinary_addText l _ _ _ held _ _ _ h))
  | close =>
    unfold result at h
    rw [Draft.step_of_close he] at h
    obtain ordinary | unlisted := Draft.closeElement_error hd h
    · exact .inl (.inl ordinary)
    · exact .inr (.inr unlisted)
  | start tag =>
    rw [result_of_start he] at h
    rcases Op.bind_runIn_eq_error.1 h with h | ⟨⟨y, origin⟩, u, hs, h⟩
    · exact .inl (failsOnly_startElement l _ _ _ _ _ _ _ _ h)
    · cases origin with
      | known v => exact .inl (.inl (Draft.isOrdinary_push _ _ _ _ _ _ _ h))
      | inclusion n i =>
        rcases Op.bind_runIn_eq_error.1 h with h | ⟨⟨v, parented⟩, z, -, h⟩
        · refine .inr (.inl ⟨n, i, u, ?_, h⟩)
          unfold included?
          rw [he]
          dsimp only
          rw [hs]
        · exact .inl (.inl (Draft.isOrdinary_push _ _ _ _ _ _ _ h))

end Moment

/-- Whether an error, without its wrappers, is for an open element that does not hold what it
should. -/
def LoadError.IsInternal (e : LoadError) : Prop :=
  ∃ f at_, e.rootCause = .structural f at_ ∧ f.isInternal = true

theorem LoadError.IsOrdinary.not_isInternal {e : LoadError} (h : e.IsOrdinary) : ¬ e.IsInternal := by
  rintro ⟨f, at_, hr, hi⟩
  rw [h.rootCause] at hr
  rw [hr] at h
  have ordinary : f.isOrdinary = true := h
  unfold StructureFault.isOrdinary at ordinary
  rw [hi] at ordinary
  cases ordinary

theorem IsBeyond.not_isInternal {α : Type} {n : Option α} {e : LoadError} (h : IsBeyond l n e) :
    ¬ e.IsInternal := by
  obtain h | ⟨-, src, at_, rfl⟩ := h
  · exact h.not_isInternal
  · rintro ⟨f, at_, hr, hi⟩
    cases hr
    cases hi

section

variable (hk : l.Keeps World.KeepsListeners) (hn : GivesObjects nested)
  (keeps : ∀ n, nested = some n → ∀ c parented source,
    (n c parented source).Keeps World.KeepsListeners)
  (fails : ∀ n, nested = some n → ∀ c parented source,
    (n c parented source).FailsOnly (¬ LoadError.IsInternal ·))

include hk hn keeps

/-- Listener elements stay inside objects with lists of their names. -/
theorem listensIn_step (hd : Everywhere (Element.ListensIn w) d.stack)
    (h : (d.step l c nested x).runIn w = (.ok d', w')) :
    Everywhere (Element.ListensIn w') d'.stack := by
  have lasts : World.KeepsListeners w w' := (hk.step keeps c d x).lasts h
  have last (outer : List Element) (e : Element) (he : e.ListensIn w outer) :
      e.ListensIn w' outer := by
    intro hl
    obtain ⟨o, ho, hlist⟩ := he hl
    exact ⟨o, ho, lasts o e.name hlist⟩
  refine (hd.step (Element.listensIn_refill w) h fun tag e hx hs => ?_).mono last
  obtain ⟨e', hs', -, listens⟩ := Draft.isSoundIn_of_start hn hx h
  obtain ⟨rfl, -⟩ := List.cons.inj (hs.symm.trans hs')
  exact listens

omit hk hn keeps in
include fails in
theorem not_isInternal_of_step (sound : d.IsSound)
    (listens : Everywhere (Element.ListensIn w) d.stack) {f : LoadError}
    (h : (d.step l c nested x).runIn w = (.error f, w')) : ¬ f.IsInternal := by
  have failed : (Moment.mk c nested d x w).result l = (.error f, w') := h
  obtain beyond | ⟨n, i, v, hi, hl⟩ | ⟨e, outer, o, hs, he, ho, hlist, -⟩ :=
    Moment.result_error sound failed
  · exact beyond.not_isInternal
  · -- what an included document fails with is wrapped in its location
    obtain ⟨f, hf, rfl⟩ := Op.mapError_runIn_eq_error hl
    rcases Op.bind_runIn_eq_error.1 hf with hr | ⟨source, u, -, hf⟩
    · have ordinary := Loader.isOrdinary_of_readText (congrArg Prod.fst hr)
      exact ordinary.not_isInternal
    · rcases Op.bind_runIn_eq_error.1 hf with hf | ⟨_, _, -, hf⟩
      · have inner := fails n (Moment.nested_of_included hi) _ _ _ _ _ _ hf
        exact inner
      · cases hf
  · exfalso
    have listed := listens
    change d.stack = e :: outer at hs
    rw [hs] at listed
    obtain ⟨o', ho', lists⟩ := listed.1 he
    cases ho.symm.trans ho'
    unfold World.Lists at lists
    rw [hlist] at lists
    cases lists

include fails

theorem not_isInternal_of_takeEvents (sound : d.IsSound)
    (listens : Everywhere (Element.ListensIn w) d.stack) {items : List Xml.Located} {f : LoadError}
    (h : (takeEvents l c nested d items).runIn w = (.error f, w')) : ¬ f.IsInternal := by
  induction items generalizing d w with
  | nil => cases h
  | cons x r ih =>
    rw [takeEvents_cons] at h
    unfold Moment.result at h
    rcases hr : (d.step l c nested x).runIn w with ⟨e | a, v⟩
    · simp only [hr] at h
      cases h
      exact not_isInternal_of_step fails sound listens hr
    · simp only [hr] at h
      exact ih (sound.step hn hr) (listensIn_step hk hn keeps listens hr) h

theorem not_isInternal_of_loadWith {parented : List ObjectId} {source : String} {f : LoadError}
    (h : (loadWith l nested c parented source).runIn w = (.error f, w')) : ¬ f.IsInternal := by
  rw [loadWith_runIn] at h
  rcases Op.bind_runIn_eq_error.1 h with h | ⟨d, v, -, h⟩
  · exact not_isInternal_of_takeEvents hk hn keeps fails (.start parented) trivial h
  · have ordinary := Draft.isOrdinary_complete (Xml.events source) d v f w' h
    exact ordinary.not_isInternal

end

theorem Loader.Keeps.deeper {R : World → World → Prop} [World.Enduring R] (hl : l.Keeps R) (n : Nat) :
    ∀ m, l.deeper n = some m → ∀ c parented source, (m c parented source).Keeps R := by
  cases n with
  | zero =>
    intro m h
    cases h
  | succ n =>
    rintro _ ⟨⟩
    exact hl.loadNested n

theorem failsOnly_deeper (hk : l.Keeps World.KeepsListeners) (n : Nat) :
    ∀ m, l.deeper n = some m → ∀ c parented source,
      (m c parented source).FailsOnly (¬ LoadError.IsInternal ·) := by
  induction n with
  | zero =>
    intro m h
    cases h
  | succ n ih =>
    rintro _ ⟨⟩ c parented source w f v h
    rw [loadNested_eq] at h
    exact not_isInternal_of_loadWith hk (givesObjects_deeper l n) (hk.deeper n) ih h

/-- Every state that events lead to is sound: the outermost element is an instance, instances and
includes hold objects, and the object around an open property or listener element is there.  So every
document that is loaded has an object as its root, and as long as the collaborators leave the listener
lists of objects in place, nothing fails because an open element does not hold what it should. -/
theorem isSound_of_load (l : Loader) (n : Nat) (c : DocumentContext) (parented : List ObjectId)
    (w : World) :
    let run (items : List Xml.Located) :=
      (takeEvents l c (l.deeper n) (.start parented) items).runIn w
    let load (source : String) := (loadNested l n c parented source).runIn w
    (∀ items d v, run items = (.ok d, v) → d.IsSound) ∧
    (∀ source o p v, load source = (.ok (o, p), v) → o.root.object?.isSome = true) ∧
    (l.Keeps World.KeepsListeners →
      (∀ items f v, run items = (.error f, v) → ¬ f.IsInternal) ∧
      ∀ source f v, load source = (.error f, v) → ¬ f.IsInternal) := by
  intro run load
  refine ⟨fun items d v h => ?sound, fun source o p v h => ?root, fun hk => ⟨?run, ?load⟩⟩
  case sound => exact (Draft.IsSound.start parented).takeEvents (givesObjects_deeper l n) h
  case root => exact givesObjects_deeper l (n + 1) _ rfl c parented source w o p v h
  case run =>
    intro items f v h
    exact not_isInternal_of_takeEvents hk (givesObjects_deeper l n) (hk.deeper n)
      (failsOnly_deeper hk n) (.start parented) trivial h
  case load =>
    intro source f v h
    exact failsOnly_deeper hk (n + 1) _ rfl c parented source w f v h

/-! ## Buttons -/

/-- A type of objects with listeners. -/
def buttonType : TypeDescriptor where
  name := "Button"
  properties := Entries.empty.insert "clickListeners" (.listeners ⟨"Click", [⟨"clicked", .unit⟩]⟩)
  defaultProperty := none
  idProperty := none

/-- The factory of a single declared type makes objects of that type and does nothing else. -/
theorem Loader.keeps_of_single {R : World → World → Prop} [World.Lasting R] {l : Loader}
    {t : TypeDescriptor} (host : l.host.Keeps R)
    (factory : l.factory = (TypeRegistry.empty.register t).factory)
    (made : ∀ w, R w (t.instantiate w).2) : l.Keeps R where
  host := host
  construct typeName := by
    rw [factory]
    unfold TypeRegistry.factory
    dsimp only
    split
    · next hc =>
      change (Entries.insert _ _ _).get? typeName = _ at hc
      rw [Entries.get?_insert] at hc
      split at hc
      · cases hc
        exact .make made
      · cases hc
    · exact .throw _
  attach _ _ _ _ _ := by
    rw [factory]
    exact .throw _

/-- The loader of documents that consist of buttons. -/
def Loader.buttons : Loader :=
  { Loader.plain with factory := (TypeRegistry.empty.register buttonType).factory }

/-- A button that listens for clicks, although no engine could tell it what to do. -/
def listeningButton : String := "<Button><clickListeners clicked='go'/></Button>"

/-- The listener element is open inside the button; its end fails, but not for want of a list. -/
theorem isSound_of_listeningButton :
    let c := DocumentContext.outer none
    Loader.buttons.Keeps World.KeepsListeners ∧
      (∃ d v,
        (takeEvents .buttons c none (.start [])
          ((Xml.events listeningButton).items.take 2)).runIn .blank = (.ok d, v) ∧
        d.kinds = [.listeners, .instanceOf] ∧ d.IsSound) ∧
      ∃ f v, (loadNested .buttons 0 c [] listeningButton).runIn .blank = (.error f, v) ∧
        f.message = "Script engine for \"javascript\" not found" ∧ ¬ f.IsInternal := by
  intro c
  obtain ⟨sound, -, external⟩ := isSound_of_load .buttons 0 c [] .blank
  have keeps : Loader.buttons.Keeps World.KeepsListeners :=
    Loader.keeps_of_single (Host.plain_keeps _) rfl fun w => World.Lasting.alloc w _
  refine ⟨keeps, ?opened, ?failed⟩
  case opened =>
    have reached : (takeEvents .buttons c none (.start [])
        ((Xml.events listeningButton).items.take 2)).succeeds .blank
          (fun d _ => d.kinds == [.listeners, .instanceOf]) = true := by
      decide +kernel
    obtain ⟨d, v, hr, kinds⟩ := Op.exists_of_succeeds reached
    exact ⟨d, v, hr, beq_iff_eq.1 kinds, sound _ d v hr⟩
  case failed =>
    have reached : (loadNested .buttons 0 c [] listeningButton).fails .blank
        (fun f _ => f.message == "Script engine for \"javascript\" not found") = true := by
      decide +kernel
    obtain ⟨f, v, hr, message⟩ := Op.exists_of_fails reached
    exact ⟨f, v, hr, beq_iff_eq.1 message, (external keeps).2 _ f v hr⟩

end Bxml
