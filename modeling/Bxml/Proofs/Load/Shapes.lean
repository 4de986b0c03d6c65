import Bxml.Proofs.Load.Steps
import Bxml.Proofs.Xml.Outline

/-!
# The open elements between events

Apart from values and texts an event changes no open element: a start adds one, an end takes the
innermost one away, and everything else leaves the stack alone.  So the markup tells how many elements
are open, and while the outermost one does not end its kind stays.  Once the script language of a
document is settled only an instruction could change it.

`Draft.kinds` is what is followed, and `Xml.Event.Reshapes` what one event does to it
(`Draft.step_reshapes`).  `Draft.Inside` counts the elements inside an outermost one, and
`Draft.Inside.takeEvents` follows the count through some events.  `takeEvents_append`,
`takeEvents_cons_eq_ok` and `takeEvents_preserves` are general, and used wherever events are taken
one by one.
-/

namespace Bxml

variable {l : Loader} {c : DocumentContext} {nested : Option NestedLoad} {d d' : Draft} {w w' : World}

/-- The kinds of the open elements, innermost first. -/
def Draft.kinds (d : Draft) : List ElementKind := d.stack.map (·.kind)

@[simp] theorem Draft.kinds_setValue (v : Value) : (d.setValue v).kinds = d.kinds := by
  unfold Draft.setValue Draft.kinds
  split <;> simp_all

@[simp] theorem Draft.language_setValue (v : Value) : (d.setValue v).language = d.language := by
  unfold Draft.setValue
  split <;> rfl

theorem Draft.isEmpty_stack_of_kinds (h : d'.kinds = d.kinds) :
    d'.stack.isEmpty = d.stack.isEmpty := by
  have empty (d : Draft) : d.kinds.isEmpty = d.stack.isEmpty := List.isEmpty_map
  rw [← empty, ← empty, h]

theorem compose_shape {e : Element} (h : (compose l c d e).runIn w = (.ok d', w')) :
    d'.kinds = d.kinds ∧ d'.language = d.language := by
  obtain ⟨-, rfl, -⟩ | ⟨r, parented, -, -, hr⟩ := compose_eq_ok h
  · exact ⟨rfl, rfl⟩
  · have hd := Receiver.take_eq_ok hr
    cases r with
    | element =>
      rw [hd]
      exact ⟨Draft.kinds_setValue _, Draft.language_setValue _⟩
    | object o =>
      rw [hd]
      exact ⟨rfl, rfl⟩

theorem closeAs_shape {e : Element} (h : (closeAs l c d e).runIn w = (.ok d', w')) :
    d'.kinds = d.kinds ∧ d'.language = d.language := by
  cases hk : e.kind.isComposed with
  | false =>
    rw [closeAs_of_not_isComposed hk h]
    exact ⟨rfl, rfl⟩
  | true =>
    rw [closeAs_of_isComposed hk] at h
    simp only [Op.bind_runIn_eq_ok] at h
    obtain ⟨_, _, -, d₁, _, hc, _, _, -, h⟩ := h
    cases h
    exact compose_shape hc

/-- What an event leaves of the open elements. -/
def Xml.Event.Reshapes (x : Xml.Event) (before after : List ElementKind) : Prop :=
  match x with
  | .start _ => ∃ k, after = k :: before
  | .close => ∃ k, before = k :: after
  | .instruction _ _ => after = before
  | .characters _ => after = before

theorem Draft.step_reshapes {x : Xml.Located} (h : (d.step l c nested x).runIn w = (.ok d', w')) :
    x.event.Reshapes d.kinds d'.kinds := by
  unfold Draft.step at h
  unfold Xml.Event.Reshapes
  cases hx : x.event with
  | instruction target data =>
    rw [hx] at h
    rw [Draft.addInstruction_eq_ok h]
    rfl
  | start tag =>
    rw [hx] at h
    obtain ⟨y, u, ⟨_, _, _, _, _, -, -, hp⟩ | ⟨_, -, hp⟩⟩ := Draft.openElement_eq_ok h
    all_goals
      obtain ⟨-, bindings, rfl⟩ := Draft.push_eq_ok hp
      exact ⟨_, rfl⟩
  | close =>
    rw [hx] at h
    obtain ⟨e, outer, d₁, u, hs, hc, -, rfl⟩ := Draft.closeElement_eq_ok h
    have shape : d₁.kinds = outer.map (·.kind) := (closeAs_shape hc).1
    refine ⟨e.kind, ?_⟩
    rw [Draft.kinds, hs, List.map_cons, ← shape]
    split <;> rfl
  | characters text =>
    rw [hx] at h
    obtain rfl | ⟨e, outer, v, hs, -, rfl⟩ := Draft.addText_eq_ok h
    · rfl
    · simp [Draft.kinds, hs]

/-- The start of an element settles the language. -/
theorem Draft.language_of_start {x : Xml.Located} {tag : Xml.StartTag} (hx : x.event = .start tag)
    (h : (d.step l c nested x).runIn w = (.ok d', w')) : d'.language = some (d.languageIn l) := by
  unfold Draft.step at h
  rw [hx] at h
  obtain ⟨y, u, ⟨_, _, _, _, _, -, -, hp⟩ | ⟨_, -, hp⟩⟩ := Draft.openElement_eq_ok h
  all_goals
    obtain ⟨-, bindings, rfl⟩ := Draft.push_eq_ok hp
    rfl

/-- A settled language stays. -/
theorem Draft.step_language {x : Xml.Located} (h : (d.step l c nested x).runIn w = (.ok d', w'))
    (hx : ∀ target data, x.event ≠ .instruction target data) {language : String}
    (hd : d.language = some language) : d'.language = some language := by
  cases he : x.event with
  | instruction target data => exact absurd he (hx _ _)
  | start tag =>
    rw [language_of_start he h, languageIn, hd]
    rfl
  | close =>
    unfold Draft.step at h
    rw [he] at h
    obtain ⟨e, outer, d₁, u, hs, hc, -, rfl⟩ := Draft.closeElement_eq_ok h
    have shape : d₁.language = d.language := (closeAs_shape hc).2
    split
    · exact shape.trans hd
    · exact shape.trans hd
  | characters text =>
    unfold Draft.step at h
    rw [he] at h
    obtain rfl | ⟨e, outer, v, hs, -, rfl⟩ := Draft.addText_eq_ok h
    · exact hd
    · exact hd

/-! ## Levels -/

/-- Whether a document has `n` open elements inside the outermost one, which is of a kind. -/
def Draft.Inside (k : ElementKind) (n : Nat) (d : Draft) : Prop :=
  ∃ inner, d.kinds = inner ++ [k] ∧ inner.length = n

theorem Draft.Inside.length_stack {k : ElementKind} {n : Nat} (h : d.Inside k n) :
    d.stack.length = n + 1 := by
  obtain ⟨inner, hk, rfl⟩ := h
  have length := congrArg List.length hk
  rwa [Draft.kinds, List.length_map, List.length_append, List.length_singleton] at length

/-- The last open element inside an outermost one is that one. -/
theorem Draft.Inside.stack_eq {k : ElementKind} (h : d.Inside k 0) :
    ∃ e, d.stack = [e] ∧ e.kind = k := by
  obtain ⟨inner, hk, hn⟩ := h
  obtain rfl := List.length_eq_zero_iff.1 hn
  obtain ⟨e, outer, hs, he, ho⟩ := List.map_eq_cons_iff.1 hk
  exact ⟨e, by rw [hs, List.map_eq_nil_iff.1 ho], he⟩

theorem Draft.Inside.step {k : ElementKind} {n m : Nat} (hd : d.Inside k n) {x : Xml.Located}
    (hx : x.event.levelAfter n = some m) (h : (d.step l c nested x).runIn w = (.ok d', w')) :
    d'.Inside k m := by
  obtain ⟨inner, hk, rfl⟩ := hd
  have shape := Draft.step_reshapes h
  unfold Xml.Event.Reshapes at shape
  rw [hk] at shape
  cases he : x.event with
  | start tag =>
    rw [he] at hx shape
    obtain ⟨kind, shape⟩ := shape
    cases hx
    exact ⟨kind :: inner, shape, rfl⟩
  | close =>
    rw [he] at hx shape
    obtain ⟨kind, shape⟩ := shape
    cases inner with
    | nil => cases hx
    | cons kind inner =>
      cases hx
      exact ⟨inner, (List.cons.inj shape).2.symm, rfl⟩
  | instruction target data =>
    rw [he] at hx shape
    cases hx
    exact ⟨inner, shape, rfl⟩
  | characters text =>
    rw [he] at hx shape
    cases hx
    exact ⟨inner, shape, rfl⟩

/-! ## Runs -/

/-- A last step for failures does nothing for a success. -/
theorem Op.onError_runIn_eq_ok {ε α : Type} {x : Op ε α} {f : ε → World → World} {a : α} :
    (x.onError f).runIn w = (.ok a, w') ↔ x.runIn w = (.ok a, w') := by
  rw [Op.onError_runIn]
  rcases x.runIn w with ⟨_ | _, _⟩ <;> simp

theorem Op.onError_runIn_of_error {ε α : Type} {x : Op ε α} {f : ε → World → World} {e : ε}
    (h : x.runIn w = (.error e, w')) : (x.onError f).runIn w = (.error e, f e w') := by
  rw [Op.onError_runIn, h]

theorem takeEvents_singleton (x : Xml.Located) :
    takeEvents l c nested d [x] = (d.step l c nested x).onError (reportFailure c x.seen) := by
  unfold takeEvents
  rw [List.foldlM_cons]
  exact bind_pure _

theorem takeEvents_cons_eq_ok {x : Xml.Located} {r : List Xml.Located} :
    (takeEvents l c nested d (x :: r)).runIn w = (.ok d', w') ↔
      ∃ a v, (d.step l c nested x).runIn w = (.ok a, v) ∧
        (takeEvents l c nested a r).runIn v = (.ok d', w') := by
  rw [takeEvents_cons]
  unfold Moment.result
  dsimp only
  rcases (d.step l c nested x).runIn w with ⟨_ | a, v⟩
  · simp
  · constructor
    · exact fun h => ⟨a, v, rfl, h⟩
    · rintro ⟨_, _, h, k⟩
      cases h
      exact k

theorem takeEvents_append (a b : List Xml.Located) :
    takeEvents l c nested d (a ++ b) = takeEvents l c nested d a >>= (takeEvents l c nested · b) :=
  List.foldlM_append

/-- What every event preserves, some events preserve. -/
theorem takeEvents_preserves {P : Draft → Prop} {items : List Xml.Located}
    (hp : ∀ x ∈ items, ∀ d d' w w', P d → (d.step l c nested x).runIn w = (.ok d', w') → P d')
    (hd : P d) (h : (takeEvents l c nested d items).runIn w = (.ok d', w')) : P d' := by
  induction items generalizing d w with
  | nil =>
    cases h
    exact hd
  | cons x r ih =>
    rw [List.forall_mem_cons] at hp
    obtain ⟨a, v, ha, h⟩ := takeEvents_cons_eq_ok.1 h
    exact ih hp.2 (hp.1 d a w v hd ha) h

/-- Inside the outermost element the markup tells how many elements are open. -/
theorem Draft.Inside.takeEvents {k : ElementKind} {n m : Nat} (hd : d.Inside k n)
    {items : List Xml.Located} (hm : Xml.levelAfter n items = some m)
    (h : (takeEvents l c nested d items).runIn w = (.ok d', w')) : d'.Inside k m := by
  induction items generalizing d w n with
  | nil =>
    cases hm
    cases h
    exact hd
  | cons x r ih =>
    obtain ⟨j, hj, hm⟩ := Xml.levelAfter_cons_eq_some.1 hm
    obtain ⟨a, v, ha, h⟩ := takeEvents_cons_eq_ok.1 h
    exact ih (hd.step hj ha) hm h

/-- Blank text at the beginning and at the end does nothing. -/
theorem takeEvents_of_blank {items : List Xml.Located}
    (h : ∀ x ∈ items, ∃ text, x.event = .characters text ∧ Text.isAllBlank text = true) :
    takeEvents l c nested d items = pure d := by
  induction items with
  | nil => rfl
  | cons x r ih =>
    rw [List.forall_mem_cons] at h
    obtain ⟨⟨text, hx, hb⟩, hr⟩ := h
    have step : d.step l c nested x = pure d := by
      unfold Draft.step Draft.addText
      rw [hx]
      exact if_pos hb
    change ((d.step l c nested x).onError _ >>= fun a => Bxml.takeEvents l c nested a r) = pure d
    rw [step]
    exact ih hr

end Bxml
