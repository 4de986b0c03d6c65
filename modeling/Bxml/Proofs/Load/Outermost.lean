import Bxml.Proofs.Load.Failures
import Bxml.Proofs.Load.InlineIncludes

/-!
# What is outside the root

A load goes by the elements that are open.  While none is, white space is passed over and any other
text is a failure, as is an element that is not an instance.  Nothing else is checked: another
instance takes the place of the one before it, and text that no markup follows is not seen at all.

`outline_of_load` is the result; it speaks of the tokens of the document, whose outline is that of
the events by `Xml/Outline.lean`.  `isOutlined_of_takeEvents` and `endsLast_of_takeEvents` read it
off the events, along the number of open elements (`Load/Shapes.lean`); `result_of_outer_text` and
`result_of_outer_start` are the two failures.  `outside_unseen` has documents that are loaded with
text after their element, or with a second one.
-/

namespace Bxml

variable {l : Loader} {c : DocumentContext} {nested : Option NestedLoad} {d d' : Draft} {w w' : World}

/-! ## Open elements and levels -/

theorem Draft.length_kinds (d : Draft) : d.kinds.length = d.stack.length := List.length_map _

/-- The markup tells how many elements are open. -/
theorem Draft.levelAfter_step {x : Xml.Located} (h : (d.step l c nested x).runIn w = (.ok d', w')) :
    x.event.levelAfter d.stack.length = some d'.stack.length := by
  have shape := Draft.step_reshapes h
  rw [← Draft.length_kinds, ← Draft.length_kinds]
  unfold Xml.Event.Reshapes at shape
  cases he : x.event with
  | start tag =>
    rw [he] at shape
    obtain ⟨k, shape⟩ := shape
    rw [shape]
    rfl
  | close =>
    rw [he] at shape
    obtain ⟨k, shape⟩ := shape
    rw [shape]
    rfl
  | instruction target data =>
    rw [he] at shape
    rw [shape]
    rfl
  | characters text =>
    rw [he] at shape
    rw [shape]
    rfl

theorem levelAfter_takeEvents {items : List Xml.Located}
    (h : (takeEvents l c nested d items).runIn w = (.ok d', w')) :
    Xml.levelAfter d.stack.length items = some d'.stack.length := by
  induction items generalizing d w with
  | nil =>
    cases h
    rfl
  | cons x r ih =>
    obtain ⟨a, v, ha, h⟩ := takeEvents_cons_eq_ok.1 h
    exact Xml.levelAfter_cons_eq_some.2 ⟨_, Draft.levelAfter_step ha, ih h⟩

theorem takeEvents_append_eq_ok {a b : List Xml.Located} :
    (takeEvents l c nested d (a ++ b)).runIn w = (.ok d', w') ↔
      ∃ e u, (takeEvents l c nested d a).runIn w = (.ok e, u) ∧
        (takeEvents l c nested e b).runIn u = (.ok d', w') := by
  rw [takeEvents_append]
  exact Op.bind_runIn_eq_ok

/-- Text outside the elements of a document that is taken is blank. -/
theorem isAllBlank_of_takeEvents {before after : List Xml.Located} {x : Xml.Located} {text : String}
    (h : (takeEvents l c nested d (before ++ x :: after)).runIn w = (.ok d', w'))
    (outside : Xml.levelAfter d.stack.length before = some 0) (hx : x.event = .characters text) :
    Text.isAllBlank text = true := by
  obtain ⟨e, u, hb, h⟩ := takeEvents_append_eq_ok.1 h
  obtain ⟨f, v, hs, -⟩ := takeEvents_cons_eq_ok.1 h
  have empty : e.stack = [] := by
    rw [levelAfter_takeEvents hb] at outside
    exact List.length_eq_zero_iff.1 (Option.some.inj outside)
  unfold Draft.step Draft.addText at hs
  rw [hx, empty] at hs
  dsimp only at hs
  split at hs
  · next hblank => exact hblank
  · cases hs

/-! ## The root -/

/-- The end of the outermost element makes its value the root. -/
theorem Draft.step_close_outermost {x : Xml.Located} (hx : x.event = .close)
    (h : (d.step l c nested x).runIn w = (.ok d', w')) (empty : d'.stack = []) :
    ∃ e, d.stack = [e] ∧ d'.root = some e.value := by
  unfold Draft.step at h
  rw [hx] at h
  obtain ⟨e, outer, d₁, u, hs, hc, -, rfl⟩ := Draft.closeElement_eq_ok h
  have same : d₁.stack.isEmpty = outer.isEmpty := Draft.isEmpty_stack_of_kinds (closeAs_shape hc).1
  have last : d₁.stack = [] := by
    split at empty <;> exact empty
  rw [last] at same
  refine ⟨e, ?_, ?_⟩
  · rw [hs, List.isEmpty_iff.1 same.symm]
  · rw [last]
    rfl

/-- Outside the elements only the end of one changes the root. -/
theorem Draft.step_outside {x : Xml.Located} (hx : x.event ≠ .close)
    (h : (d.step l c nested x).runIn w = (.ok d', w')) (empty : d'.stack = []) :
    d.stack = [] ∧ d'.root = d.root ∧ ∀ tag, x.event ≠ .start tag := by
  have level := Draft.levelAfter_step h
  rw [empty] at level
  have same (hl : x.event.levelAfter d.stack.length = some d.stack.length) : d.stack = [] :=
    List.length_eq_zero_iff.1 (Option.some.inj (hl.symm.trans level))
  cases he : x.event with
  | start tag =>
    rw [he] at level
    cases level
  | close => exact absurd he hx
  | instruction target data =>
    refine ⟨same (by rw [he]; rfl), ?_, nofun⟩
    unfold Draft.step at h
    rw [he] at h
    rw [Draft.addInstruction_eq_ok h]
  | characters text =>
    refine ⟨same (by rw [he]; rfl), ?_, nofun⟩
    unfold Draft.step at h
    rw [he] at h
    obtain rfl | ⟨e, outer, v, -, -, rfl⟩ := Draft.addText_eq_ok h
    · rfl
    · cases empty

/-- Whether a value is that of the element that ends last among some events, with no other one open
then, and nothing begins after it. -/
def EndsLast (l : Loader) (c : DocumentContext) (nested : Option NestedLoad) (d : Draft)
    (items : List Xml.Located) (w : World) (v : Value) : Prop :=
  ∃ before x after d' u e, items = before ++ x :: after ∧ x.event = .close ∧
    (takeEvents l c nested d before).runIn w = (.ok d', u) ∧ d'.stack = [e] ∧ e.value = v ∧
    ∀ y ∈ after, ∀ tag, y.event ≠ .start tag

/-- A root that is new when no element is open is the value of the last outermost element. -/
theorem endsLast_of_takeEvents {items : List Xml.Located} {v : Value}
    (h : (takeEvents l c nested d items).runIn w = (.ok d', w')) (hd : d.root = none)
    (empty : d'.stack = []) (hv : d'.root = some v) : EndsLast l c nested d items w v := by
  induction items using List.reverseRecOn generalizing d' w' with
  | nil =>
    cases h
    rw [hd] at hv
    cases hv
  | append_singleton items x ih =>
    obtain ⟨a, u, ha, h⟩ := takeEvents_append_eq_ok.1 h
    obtain ⟨b, z, hs, h⟩ := takeEvents_cons_eq_ok.1 h
    cases h
    by_cases hx : x.event = .close
    · obtain ⟨e, stack, root⟩ := Draft.step_close_outermost hx hs empty
      rw [root] at hv
      exact ⟨items, x, [], a, u, e, rfl, hx, ha, stack, Option.some.inj hv, nofun⟩
    · obtain ⟨stack, root, plain⟩ := Draft.step_outside hx hs empty
      obtain ⟨before, y, after, b, z, e, rfl, hy, hb, hstack, he, hafter⟩ :=
        ih ha stack (root ▸ hv)
      refine ⟨before, y, after ++ [x], b, z, e, ?_, hy, hb, hstack, he, fun t ht => ?_⟩
      · rw [List.append_assoc, List.cons_append]
      · rcases List.mem_append.1 ht with ht | ht
        · exact hafter t ht
        · rw [List.mem_singleton.1 ht]
          exact plain

/-! ## Failures outside the elements -/

namespace Moment

variable {m : Moment}

/-- Text outside the elements is a failure if it is not blank. -/
theorem result_of_outer_text {text : String} (empty : m.draft.stack = [])
    (he : m.event.event = .characters text) (ht : Text.isAllBlank text = false) :
    m.result l = (.error (.structural .textOutsideRoot m.event.location), m.world) := by
  unfold result Draft.step Draft.addText
  rw [he, empty]
  dsimp only
  rw [if_neg (Bool.eq_false_iff.1 ht)]
  rfl

/-- An outermost element that is not an instance is a failure. -/
theorem result_of_outer_start {tag : Xml.StartTag} (empty : m.draft.stack = [])
    (he : m.event.event = .start tag) (ht : ¬ tag.IsInstance) :
    ∃ f, m.result l = (.error (.structural f m.event.location), m.world) := by
  have unclassified : ∃ f, (classify l [] tag m.event.location).runIn m.world =
      (.error (.structural f m.event.location), m.world) := by
    unfold classify
    split
    · exact ⟨_, rfl⟩
    · next space =>
      split
      · exact ⟨_, rfl⟩
      · next attached =>
        split
        · next upper => exact absurd ⟨space, attached, upper⟩ ht
        · split <;> exact ⟨_, rfl⟩
  obtain ⟨f, hf⟩ := unclassified
  refine ⟨f, ?_⟩
  have stack : (m.draft.settleLanguage l).stack = [] := empty
  rw [result_of_start he]
  unfold Draft.openElement startElement
  dsimp only
  rw [stack, bind_assoc]
  exact Op.bind_runIn_of_error hf

end Moment

/-! ## Documents that load -/

theorem Draft.fault_of_complete {es : Xml.Events} {r : Outcome × List ObjectId}
    (h : (d.complete l c es).runIn w = (.ok r, w')) : es.fault = none := by
  simp only [Draft.complete, Op.bind_runIn_eq_ok] at h
  obtain ⟨_, _, hf, -⟩ := h
  unfold reportFault at hf
  split at hf
  · cases hf
  · next sound => exact sound

/-- A document that loads consists of complete elements, with nothing but white space outside them
as far as markup follows. -/
theorem isOutlined_of_takeEvents {source : String} {parented : List ObjectId}
    (sound : (Xml.events source).fault = none)
    (h : (takeEvents l c nested (.start parented) (Xml.events source).items).runIn w = (.ok d, w'))
    (empty : d.stack = []) {v : Value} (hv : d.root = some v) :
    Xml.IsOutlined ((Xml.tokens source.toList).items.map (·.2)) := by
  have levels := Xml.levelAfter_eventsFrom sound 0
  have ended : Xml.depthAfter 0 ((Xml.tokens source.toList).items.map (·.2)) = some 0 := by
    rw [← levels]
    have level := levelAfter_takeEvents h
    rwa [empty] at level
  refine ⟨ended, ?root, ?blank⟩
  case root =>
    obtain ⟨before, x, after, -, -, -, hi, hx, -⟩ := endsLast_of_takeEvents h rfl empty hv
    have member : x ∈ (Xml.events source).items := by
      rw [hi]
      exact List.mem_append_right _ List.mem_cons_self
    exact Xml.rootCount_pos (by rw [ended]; nofun) (Xml.closeTag_of_close sound member hx)
  case blank =>
    intro before t after hts outside hm
    by_cases ht : t.characters = []
    · unfold Xml.Token.IsBlank
      rw [ht]
      rfl
    · obtain ⟨front, rest, hf, rfl, hr⟩ := List.map_eq_append_iff.1 hts
      obtain ⟨⟨offset, u⟩, rest, rfl, rfl, rfl⟩ := List.map_eq_cons_iff.1 hr
      have sound' := sound
      unfold Xml.events at sound' h
      dsimp only at sound' h
      rw [hf] at sound' h
      obtain ⟨items, x, more, text, hi, hx, hin, hl⟩ := Xml.exists_characters sound' ht hm
      rw [hi] at h
      have blank := isAllBlank_of_takeEvents h ((hl 0).trans outside) hx
      exact List.all_eq_true.2 fun a ha => List.all_eq_true.1 blank a (hin.subset ha)

/-- A document that loads consists of complete elements, at least one, its root is the value of the
last outermost one, and outside them is only white space as far as markup follows.  So it has a
single root exactly when there is one outermost element and the text at the end is white space.  Any
other text outside the elements and outermost elements that are not instances are failures. -/
theorem outline_of_load (l : Loader) (n : Nat) (c : DocumentContext) (parented : List ObjectId)
    (source : String) (w : World) :
    let ts := (Xml.tokens source.toList).items.map (·.2)
    let run := (loadNested l n c parented source).runIn w
    (∀ o parented' w', run = (.ok (o, parented'), w') →
      (Xml.events source).fault = none ∧ Xml.IsOutlined ts ∧
      (Xml.IsSingleRooted ts ↔ Xml.rootCount 0 ts = 1 ∧
        ∀ rest, rest <:+ ts → (∀ t ∈ rest, t.isMarkup = false) → ∀ t ∈ rest, t.IsBlank) ∧
      EndsLast l c (l.deeper n) (.start parented) (Xml.events source).items (c.announce w) o.root) ∧
    ∀ m ∈ momentsNested l n c parented source w, m.draft.stack = [] →
      (∀ text, m.event.event = .characters text → Text.isAllBlank text = false →
        FailsAs (.structural .textOutsideRoot m.event.location) m.world run) ∧
      ∀ tag, m.event.event = .start tag → ¬ tag.IsInstance →
        ∃ f, FailsAs (.structural f m.event.location) m.world run := by
  intro ts run
  constructor
  · intro o parented' w' h
    have loaded : (loadNested l n c parented source).runIn w = (.ok (o, parented'), w') := h
    rw [loadNested_eq, loadWith_runIn, Op.bind_runIn_eq_ok] at loaded
    obtain ⟨d, u, taken, completed⟩ := loaded
    obtain ⟨empty, root, -⟩ := Draft.complete_eq_ok completed
    have sound := Draft.fault_of_complete completed
    have outlined := isOutlined_of_takeEvents sound taken empty root
    exact ⟨sound, outlined, outlined.isSingleRooted_iff,
      endsLast_of_takeEvents taken rfl empty root⟩
  · intro m hm empty
    refine ⟨fun text he ht => ?_, fun tag he ht => ?_⟩
    · exact loadNested_of_error n c parented source w hm (Moment.result_of_outer_text empty he ht)
    · obtain ⟨f, hf⟩ := Moment.result_of_outer_start empty he ht
      exact ⟨f, loadNested_of_error n c parented source w hm hf⟩

/-- Documents are loaded that have text after their only element or a second outermost one. -/
theorem outside_unseen :
    let load (source : String) := (Loader.plain.loadOuter (.outer none) source).runIn .blank
    let outline (source : String) := (Xml.tokens source.toList).items.map (·.2)
    (load "<A/>words").1.isOk = true ∧ ¬ Xml.IsSingleRooted (outline "<A/>words") ∧
      (load "<A/><B/>").1.isOk = true ∧ ¬ Xml.IsSingleRooted (outline "<A/><B/>") := by
  intro load outline
  refine ⟨by decide +kernel, fun h => ?text, by decide +kernel, fun h => ?second⟩
  case text =>
    have pieces : outline "<A/>words" = [.openTag ['A'], .closeTag] ++
        .text ['w', 'o', 'r', 'd', 's'] :: [] := by
      decide +kernel
    exact absurd (h.blank _ _ _ pieces (by decide)) (by decide)
  case second =>
    have count : Xml.rootCount 0 (outline "<A/><B/>") = 2 := by decide +kernel
    rw [h.root] at count
    cases count

end Bxml
