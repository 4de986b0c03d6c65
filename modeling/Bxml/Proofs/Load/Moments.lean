import Bxml.Load.Document

/-!
# The moments of a load

A load takes the events of a document one after the other, and in between those of the documents it
includes.  This file lists the moments of a load in their order: each is a document under
construction that is about to take an event, in a certain world.  Whatever is said of all loads is
proved by `loadNested_induction`, which follows the events of a document and the nesting of
included ones.

* `Moment` has all that an event depends on; `Loader.moments` lists those of a load, with the
  moments of an included document (`Moment.inside`) in the place of the event that includes it.
* `takeEvents_cons` is the equation for one event more, and `Moment.Inside` and `Moment.inside_spec`
  the cases of an event: nothing is included, a document that cannot be read, or one that is loaded.
* `loadNested_induction` has one case for each step, named after it, so that proofs about loads do
  not unfold the loader.
-/

namespace Bxml

/-- A moment of a load: a document under construction is about to take an event. -/
structure Moment where
  context : DocumentContext
  /-- What loads the documents that the event may include. -/
  nested : Option NestedLoad
  draft : Draft
  event : Xml.Located
  world : World

/-- The moments of the loads of included documents. -/
abbrev NestedMoments := DocumentContext → List ObjectId → String → World → List Moment

namespace Moment

variable (l : Loader) (m : Moment)

/-- What becomes of the document and the world when the event is taken. -/
def result : Except LoadError Draft × World :=
  (m.draft.step l m.context m.nested m.event).runIn m.world

/-- The document that the event includes, with what loads it and the world it is loaded in. -/
def included? : Option (NestedLoad × Inclusion × World) :=
  match m.event.event with
  | .start tag =>
    match (startElement l m.context m.nested (m.draft.settleLanguage l) tag
        m.event.location).runIn m.world with
    | (.ok (_, .inclusion nested i), w) => some (nested, i, w)
    | _ => none
  | _ => none

/-- The moments of the document that the event includes. -/
def inside (moments : NestedMoments) : List Moment :=
  match m.included? l with
  | some (_, i, w) =>
    match l.readText i.url i.charset with
    | .ok source => moments i.context m.draft.parented source w
    | .error _ => []
  | none => []

end Moment

section

variable (l : Loader)

/-- The moments of a document from a draft on, up to its end or a failure. -/
def momentsFrom (c : DocumentContext) (nested : Option NestedLoad) (moments : NestedMoments) :
    List Xml.Located → Draft → World → List Moment
  | [], _, _ => []
  | x :: r, d, w =>
    let m : Moment := ⟨c, nested, d, x, w⟩
    m :: m.inside l moments ++
      match m.result l with
      | (.ok d, w) => momentsFrom c nested moments r d w
      | (.error _, _) => []

/-- The moments of a document. -/
def momentsWith (nested : Option NestedLoad) (moments : NestedMoments) : NestedMoments :=
  fun c parented source w =>
    momentsFrom l c nested moments (Xml.events source).items (.start parented) (c.announce w)

/-- The moments of a document inside which documents may be included `n` deep. -/
def momentsNested : Nat → NestedMoments
  | 0 => momentsWith l none fun _ _ _ _ => []
  | n + 1 => momentsWith l (some (loadNested l n)) (momentsNested n)

/-- The moments of the load of a document that no other one includes. -/
def Loader.moments (c : DocumentContext) (source : String) (w : World) : List Moment :=
  momentsNested l l.maxDepth c [] source w

end

/-! ## Induction over loads

`P c d w ms r` speaks of a document from the draft `d` on, which passes through the moments `ms` and
comes to `r`; `Q c parented w ms r` speaks of the load of a whole document. -/

/-- What an event includes: nothing, a document that cannot be read, or one of which `Q` holds. -/
inductive Moment.Inside (l : Loader)
    (Q : DocumentContext → List ObjectId → World → List Moment →
      Except LoadError (Outcome × List ObjectId) × World → Prop) (m : Moment) :
    List Moment → Prop
  | nothing : m.included? l = none → Inside l Q m []
  | unread {nested i v e} : m.included? l = some (nested, i, v) →
      l.readText i.url i.charset = .error e → Inside l Q m []
  | document {nested i v source ms} : m.included? l = some (nested, i, v) →
      l.readText i.url i.charset = .ok source →
      Q i.context m.draft.parented v ms ((nested i.context m.draft.parented source).runIn v) →
      Inside l Q m ms

section

variable {l : Loader}
  {P : DocumentContext → Draft → World → List Moment → Except LoadError Draft × World → Prop}
  {Q : DocumentContext → List ObjectId → World → List Moment →
    Except LoadError (Outcome × List ObjectId) × World → Prop}

/-- The draft and the world when the events `items` are taken, told by the first of them. -/
theorem takeEvents_cons (c : DocumentContext) (nested : Option NestedLoad) (x : Xml.Located)
    (r : List Xml.Located) (d : Draft) (w : World) :
    (takeEvents l c nested d (x :: r)).runIn w =
      match (Moment.mk c nested d x w).result l with
      | (.ok d, v) => (takeEvents l c nested d r).runIn v
      | (.error e, v) => (.error e, reportFailure c x.seen e v) := by
  simp only [takeEvents, List.foldlM_cons, Op.bind_runIn, Op.onError_runIn, Moment.result]
  rcases (d.step l c nested x).runIn w with ⟨_ | _, _⟩ <;> rfl

theorem prepareInclusion_fst {α : Type} {c : DocumentContext} {nested : Option α} {d : Draft}
    {e : Element} {w v : World} {a : α} {i : Inclusion}
    (h : (prepareInclusion l c nested d e).runIn w = (.ok (a, i), v)) : nested = some a := by
  simp only [prepareInclusion, Op.bind_runIn_eq_ok] at h
  obtain ⟨_, _, -, _, _, -, b, _, hb, _, _, -, _, _, -, _, _, -, _, _, -, _, _, -, h⟩ := h
  cases nested with
  | none => cases hb
  | some a =>
    cases hb
    cases h
    rfl

theorem startElement_inclusion {α : Type} {c : DocumentContext} {nested : Option α} {d : Draft}
    {tag : Xml.StartTag} {at_ : Location} {w v : World} {x : Attributed} {a : α} {i : Inclusion}
    (h : (startElement l c nested d tag at_).runIn w = (.ok (x, .inclusion a i), v)) :
    ∃ u, (prepareInclusion l c nested d x.element).runIn u = (.ok (a, i), v) := by
  simp only [startElement, Op.bind_runIn_eq_ok] at h
  obtain ⟨found, _, -, y, u, -, h⟩ := h
  split at h
  · simp only [Op.bind_runIn_eq_ok] at h
    obtain ⟨⟨b, j⟩, _, hp, h⟩ := h
    cases h
    exact ⟨u, hp⟩
  · simp only [Op.bind_runIn_eq_ok] at h
    obtain ⟨_, _, -, h⟩ := h
    cases h
  · cases h

theorem Moment.nested_of_included {m : Moment} {n : NestedLoad} {i : Inclusion} {w : World}
    (h : m.included? l = some (n, i, w)) : m.nested = some n := by
  unfold Moment.included? at h
  split at h
  · split at h
    · next hs =>
      cases h
      obtain ⟨_, hp⟩ := startElement_inclusion hs
      exact prepareInclusion_fst hp
    · cases h
  · cases h

/-- What is said of every nested load can be said of what an event includes. -/
theorem Moment.inside_spec {m : Moment} {moments : NestedMoments}
    (h : ∀ n, m.nested = some n → ∀ c parented source w,
      Q c parented w (moments c parented source w) ((n c parented source).runIn w)) :
    m.Inside l Q (m.inside l moments) := by
  unfold Moment.inside
  cases hi : m.included? l with
  | none => exact .nothing hi
  | some x =>
    obtain ⟨n, i, w⟩ := x
    dsimp only
    cases hr : l.readText i.url i.charset with
    | error e => exact .unread hi hr
    | ok source => exact .document hi hr (h n (Moment.nested_of_included hi) _ _ _ _)

/-- What a document comes to, by its moments: `nil` when there is nothing left, `fail` when an event
fails, and `step` when an event succeeds. -/
theorem momentsFrom_induction {c : DocumentContext} {nested : Option NestedLoad}
    {moments : NestedMoments}
    (hn : ∀ n, nested = some n → ∀ c parented source w,
      Q c parented w (moments c parented source w) ((n c parented source).runIn w))
    (nil : ∀ c d w, P c d w [] (.ok d, w))
    (fail : ∀ (m : Moment) ms e w, m.Inside l Q ms → m.result l = (.error e, w) →
      P m.context m.draft m.world (m :: ms) (.error e, reportFailure m.context m.event.seen e w))
    (step : ∀ (m : Moment) ms d w ns r, m.Inside l Q ms → m.result l = (.ok d, w) →
      P m.context d w ns r → P m.context m.draft m.world (m :: ms ++ ns) r)
    (items : List Xml.Located) (d : Draft) (w : World) :
    P c d w (momentsFrom l c nested moments items d w)
      ((takeEvents l c nested d items).runIn w) := by
  induction items generalizing d w with
  | nil => exact nil c d w
  | cons x r ih =>
    have inside := Moment.inside_spec (l := l) (Q := Q) (m := ⟨c, nested, d, x, w⟩) hn
    rw [takeEvents_cons]
    unfold momentsFrom
    cases hr : (Moment.mk c nested d x w).result l with
    | mk result v =>
      cases result with
      | error e => simpa [hr] using fail _ _ e v inside hr
      | ok d' => simpa [hr] using step _ _ d' v _ _ inside hr (ih d' v)

/-- Induction over loads. A load passes through the moments of its events and ends with the
completion of the document, or with the failure of an event. -/
theorem loadNested_induction
    (nil : ∀ c d w, P c d w [] (.ok d, w))
    (fail : ∀ (m : Moment) ms e w, m.Inside l Q ms → m.result l = (.error e, w) →
      P m.context m.draft m.world (m :: ms) (.error e, reportFailure m.context m.event.seen e w))
    (step : ∀ (m : Moment) ms d w ns r, m.Inside l Q ms → m.result l = (.ok d, w) →
      P m.context d w ns r → P m.context m.draft m.world (m :: ms ++ ns) r)
    (abort : ∀ c parented w ms e v, P c (.start parented) (c.announce w) ms (.error e, v) →
      Q c parented w ms (.error e, v))
    (complete : ∀ c parented es w ms d v, P c (.start parented) (c.announce w) ms (.ok d, v) →
      Q c parented w ms ((d.complete l c es).runIn v))
    (n : Nat) (c : DocumentContext) (parented : List ObjectId) (source : String) (w : World) :
    Q c parented w (momentsNested l n c parented source w)
      ((loadNested l n c parented source).runIn w) := by
  have load (nested : Option NestedLoad) (moments : NestedMoments)
      (hn : ∀ n, nested = some n → ∀ c parented source w,
        Q c parented w (moments c parented source w) ((n c parented source).runIn w))
      (c : DocumentContext) (parented : List ObjectId) (source : String) (w : World) :
      Q c parented w (momentsWith l nested moments c parented source w)
        ((loadWith l nested c parented source).runIn w) := by
    have events := momentsFrom_induction (c := c) hn nil fail step (Xml.events source).items
      (.start parented) (c.announce w)
    simp only [momentsWith, loadWith, Op.bind_runIn, Op.change_runIn]
    cases hr : (takeEvents l c nested (.start parented) (Xml.events source).items).runIn
        (c.announce w) with
    | mk result v =>
      rw [hr] at events
      cases result with
      | error e => exact abort _ _ _ _ _ _ events
      | ok d => exact complete _ _ _ _ _ _ _ events
  induction n generalizing c parented source w with
  | zero => exact load none _ (fun _ h => by cases h) c parented source w
  | succ n ih =>
    refine load (some (loadNested l n)) _ (fun m h => ?_) c parented source w
    cases h
    exact ih

end

end Bxml
