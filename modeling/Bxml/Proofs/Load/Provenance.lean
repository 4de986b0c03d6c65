import Bxml.Proofs.Load.Chains

/-!
# Where an error comes from

A load that fails is at fault in one of its documents: that one cannot be read, or one of its events
fails and no document that it includes is to blame, or it cannot be completed.  The wrappers of the
error are the chain of included documents that leads there, and inside them is what this document
failed with.

* `Loading.FailsItself` says that a document is at fault itself, `Leads` is the chain to it, and
  `FailsWith` says what wrappers an error has.
* `Loading.failsWith_iff` says that they belong together, by induction on the chain in one direction
  and on the depth in the other; `wrappers_of_load` is that for outermost documents.
* An include element that cannot be resolved is a fault of the document that it is in
  (`Moment.Unresolved`), since the document it asks for has not begun.
-/

namespace Bxml

/-- Whether the load of a document fails with an error of its own. -/
inductive Loading.FailsItself (l : Loader) (D : Loading) : LoadError → Prop
  /-- The document cannot be read, or its text cannot be decoded. -/
  | reading {e : LoadError} : D.source.read l = .error e → FailsItself l D e
  /-- An event fails, although the document that it includes is loaded, if it includes one. -/
  | event {m : Moment} {e : LoadError} {v : World} : D.ComesTo l m →
      m.result l = (.error e, v) →
      (∀ u D', m.Includes l u D' → ∃ o w, D'.result l = (.ok o, w)) → FailsItself l D e
  /-- The markup is broken after the events that were taken, there is no root or one that does not
  end, the bindings fail, or what is to be run on the root does. -/
  | ending {source : String} {d : Draft} {e : LoadError} {w v : World} :
      D.source.read l = .ok source → D.taken l (Xml.events source).items = (.ok d, w) →
      (d.complete l D.context (Xml.events source)).runIn w = (.error e, v) → FailsItself l D e

/-- Whether a load fails with an error that has the given wrappers around the given cause. -/
def FailsWith {α : Type} (us : List Url) (e : LoadError) (r : Except LoadError α × World) : Prop :=
  ∃ f v, r = (.error f, v) ∧ f.wrappers = us ∧ f.rootCause = e

/-- Whether the event of a moment starts an include element, but which document it asks for cannot be
told, or it may not be included. -/
def Moment.Unresolved (l : Loader) (m : Moment) (e : LoadError) : Prop :=
  ∃ tag found x u z v, m.event.event = .start tag ∧
    (classify l m.draft.stack tag m.event.location).runIn m.world = (.ok found, u) ∧
    found.kind = .inclusion ∧
    (tag.attributes.foldlM (Attributed.add m.context tag.namespaceUri)
      ⟨.new found.kind found.name found.value m.event.location, []⟩).runIn u = (.ok x, z) ∧
    (prepareInclusion l m.context m.nested (m.draft.settleLanguage l) x.element).runIn z =
      (.error e, v)

variable {l : Loader} {D D' : Loading} {m : Moment} {us : List Url} {e f : LoadError}

/-! ## Errors of a document's own -/

theorem LoadError.IsOrdinary.unwrapped (h : f.IsOrdinary) : f.wrappers = [] ∧ f.rootCause = f :=
  ⟨h.wrappers, h.rootCause⟩

theorem Source.isOrdinary_of_read {s : Source} (h : s.read l = .error e) : e.IsOrdinary := by
  cases s with
  | text s => cases h
  | resource u x => exact Loader.isOrdinary_of_readText h

/-- An event that fails does so by itself, or because of the document that it includes. -/
theorem Loading.ComesTo.result_error (h : D.ComesTo l m) {v : World}
    (hf : m.result l = (.error f, v)) :
    (f.wrappers = [] ∧ f.rootCause = f) ∨
      ∃ u D' e, D.depth = D'.depth + 1 ∧ m.Includes l u D' ∧ D'.result l = (.error e, v) ∧
        f = .included u e := by
  obtain ordinary | ⟨n, i, w, hi, hl⟩ | ⟨_, _, _, -, -, -, -, rfl⟩ := Moment.result_error h.isSound hf
  · left
    obtain ordinary | ⟨-, _, _, rfl⟩ := ordinary
    · exact ordinary.unwrapped
    · exact ⟨rfl, rfl⟩
  · obtain ⟨D', included, depth, rfl, rfl⟩ := h.includes hi
    obtain ⟨e, he, rfl⟩ := (included.load_eq_error hi).1 hl
    exact .inr ⟨i.url, D', e, depth, included, he, rfl⟩
  · exact .inl ⟨rfl, rfl⟩

/-- What a document fails with itself has no wrapper, and is what its load comes to. -/
theorem Loading.FailsItself.failsWith (h : D.FailsItself l e) : FailsWith [] e (D.result l) := by
  cases h with
  | reading read =>
    exact ⟨e, _, result_of_unread read, (Source.isOrdinary_of_read read).unwrapped⟩
  | event hm hf loads =>
    refine ⟨e, _, hm.result_of_error hf, ?_⟩
    obtain unwrapped | ⟨u, D', f, -, included, failed, -⟩ := hm.result_error hf
    · exact unwrapped
    · obtain ⟨o, w, loaded⟩ := loads u D' included
      rw [loaded] at failed
      cases failed
  | @ending source d _ w v read taken failed =>
    refine ⟨e, v, ?_, (Draft.isOrdinary_complete _ _ _ _ _ failed).unwrapped⟩
    rw [result_of_read read, loadNested_eq, loadWith_runIn, Op.bind_runIn_of_ok taken]
    exact failed

/-- A document that fails is at fault itself, or one that it includes is. -/
theorem Loading.failsItself_or_included {v : World} (h : D.result l = (.error f, v)) :
    D.FailsItself l f ∨ ∃ m u D' e w, D.ComesTo l m ∧ D.depth = D'.depth + 1 ∧ m.Includes l u D' ∧
      D'.result l = (.error e, w) ∧ f = .included u e := by
  obtain ⟨read, -⟩ | ⟨m, w, hm, hf, -⟩ | ⟨source, d, w, read, taken, failed⟩ := result_eq_error h
  · exact .inl (.reading read)
  · obtain unwrapped | ⟨u, D', e, depth, included, failed, rfl⟩ := hm.result_error hf
    · refine .inl (.event hm hf fun u D' included => ?_)
      rcases hr : D'.result l with ⟨e | o, w'⟩
      · -- the error of the document it includes would be wrapped
        rw [included.result_of_error hr] at hf
        cases hf
        cases unwrapped.1
      · exact ⟨o, w', rfl⟩
    · exact .inr ⟨m, u, D', e, w, hm, depth, included, failed, rfl⟩
  · exact .inl (.ending read taken failed)

/-! ## Chains -/

/-- The wrappers of an error are the chain to the document that is at fault. -/
theorem Loading.failsWith_iff :
    FailsWith us e (D.result l) ↔ ∃ D', Leads l D us D' ∧ D'.FailsItself l e := by
  constructor
  · rintro ⟨f, v, hf, rfl, rfl⟩
    induction hn : D.depth using Nat.strong_induction_on generalizing D f v with
    | h n ih =>
      obtain itself | ⟨m, u, D', e, w, hm, depth, included, failed, rfl⟩ :=
        failsItself_or_included hf
      · obtain ⟨_, _, hf', wrappers, cause⟩ := itself.failsWith
        cases hf.symm.trans hf'
        rw [wrappers, cause]
        exact ⟨D, .refl D, itself⟩
      · have less : D'.depth < n := by
          rw [← hn, depth]
          exact Nat.lt_succ_self _
        obtain ⟨D'', leads, itself⟩ := ih D'.depth less e w failed rfl
        exact ⟨D'', .step hm depth included leads, itself⟩
  · rintro ⟨D', leads, itself⟩
    induction leads with
    | refl D => exact itself.failsWith
    | step hm depth included _ ih =>
      obtain ⟨f, v, hf, rfl, rfl⟩ := ih itself
      exact ⟨_, _, hm.result_of_error (included.result_of_error hf), rfl, rfl⟩

namespace Moment.Unresolved

theorem startElement (h : m.Unresolved l e) : ∃ tag v, m.event.event = .start tag ∧
    (startElement l m.context m.nested (m.draft.settleLanguage l) tag m.event.location).runIn
      m.world = (.error e, v) := by
  obtain ⟨tag, found, x, u, z, v, he, classified, kind, attributes, unprepared⟩ := h
  refine ⟨tag, v, he, ?_⟩
  unfold Bxml.startElement
  have stack : (m.draft.settleLanguage l).stack = m.draft.stack := rfl
  rw [stack, Op.bind_runIn_of_ok classified, Op.bind_runIn_of_ok attributes]
  rw [kind]
  exact Op.bind_runIn_of_error unprepared

/-- An include element that cannot be resolved is the fault of the document that it is in. -/
theorem failsItself (h : m.Unresolved l e) (hm : D.ComesTo l m) : D.FailsItself l e := by
  obtain ⟨tag, v, he, failed⟩ := h.startElement
  refine .event hm (v := v) ?_ fun u D' included => ?_
  · rw [result_of_start he]
    exact Op.bind_runIn_of_error failed
  · obtain ⟨i, hi, -⟩ := included.included
    obtain ⟨tag', x, he', started⟩ := included?_eq_some hi
    cases he.symm.trans he'
    rw [failed] at started
    cases started

end Moment.Unresolved

/-! ## Whole loads -/

theorem Loading.failsWith_outcome : FailsWith us e (D.outcome l) ↔ FailsWith us e (D.result l) := by
  unfold FailsWith
  simp only [outcome_eq_error]

/-- The wrappers of the error of a load, outermost first, are the locations of the included documents
that lead from the outermost document to the one that is at fault, and its root cause is what that
document fails with itself.  An include element that cannot be resolved is the fault of the document
that it is in. -/
theorem wrappers_of_load (l : Loader) (h : Held) (w : World) :
    (∀ source table location, ∃ c u,
      (l.outerContext h table none location).runIn w = (.ok c, u) ∧
      ∀ us e, FailsWith us e ((l.loadText h source table location).runIn w) ↔
        ∃ D, Leads l (l.outermost c (.text source) u) us D ∧ D.FailsItself l e) ∧
    (∀ location table bundle, ∃ c u,
      (l.outerContext h table bundle (some location)).runIn w = (.ok c, u) ∧
      ∀ us e, FailsWith us e ((l.loadUrl h location table bundle).runIn w) ↔
        ∃ D, Leads l (l.outermost c (.resource location l.charset) u) us D ∧ D.FailsItself l e) ∧
    ∀ D us D' m e, Leads l D us D' → D'.ComesTo l m → m.Unresolved l e →
      FailsWith us e (D.result l) := by
  refine ⟨fun source table location => ?text, fun location table bundle => ?url, ?unresolved⟩
  case text =>
    obtain ⟨c, u, -, -, hc, run⟩ := l.loadText_runIn h source table location w
    refine ⟨c, u, hc, fun us e => ?_⟩
    rw [run, Loading.failsWith_outcome, Loading.failsWith_iff]
  case url =>
    obtain ⟨c, u, -, -, hc, run⟩ := l.loadUrl_runIn h location table bundle w
    refine ⟨c, u, hc, fun us e => ?_⟩
    rw [run, Loading.failsWith_outcome, Loading.failsWith_iff]
  case unresolved =>
    intro D us D' m e leads hm unresolved
    exact Loading.failsWith_iff.2 ⟨D', leads, unresolved.failsItself hm⟩

end Bxml
