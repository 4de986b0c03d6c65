import Bxml.Proofs.Load.Provenance

/-!
# What is recorded of a load that fails

When a document fails at an event, at its markup or at a binding, the last thing that its load does
is to record the error.  Nothing is recorded when its text cannot be had, when it has no root or an
element without an end, and when what is to be run on its root fails.  A document that includes it
fails at an event then, so that only an outermost document can fail without a record of the error.

* `Loading.FailsUnseen` lists the failures that nothing is recorded of, and `reports_of_load` says
  that there are no others, and that nothing at all is recorded when one of them occurs in an
  outermost document.
* `Draft.complete_error` is the end of a document, and `Loading.taken_keeps` says that records stay,
  so that the last one is the one in question.
* `unreported_failures` has one document for each kind.
-/

namespace Bxml

namespace World

variable {u v w : World} {e : LoadError}

/-- Whether a world has recorded all that an earlier one had, and in the same order. -/
def Records (w v : World) : Prop := w.trace.toList <+: v.trace.toList

theorem records_of_eq (h : v.trace = w.trace) : Records w v := by
  unfold Records
  rw [h]

theorem records_emit (w : World) (e : Event) : Records w (w.emit e) := by
  change w.trace.toList <+: (w.trace.push e).toList
  rw [Array.toList_push]
  exact List.prefix_append _ _

instance : Enduring Records where
  refl _ := List.prefix_rfl
  trans h h' := List.IsPrefix.trans h h'
  emit w e := records_emit w e
  exhaust _ := records_of_eq rfl
  alloc _ _ := records_of_eq rfl
  allocTable _ _ := records_of_eq rfl
  assign h := by
    obtain ⟨f, hf⟩ := exists_modify_of_assign h
    rw [hf]
    exact records_of_eq rfl
  append _ _ _ := records_of_eq rfl
  subscribe _ _ _ _ := records_of_eq rfl
  addListener _ _ _ _ := records_of_eq rfl
  putId h := by
    rw [(putId_eq h).2]
    exact records_of_eq rfl

/-- Whether an error was recorded at the level of errors, after some words, between two worlds. -/
def Reports (w v : World) (e : LoadError) : Prop :=
  ∃ events words, v.trace.toList = w.trace.toList ++ events ∧
    .log .error (words ++ e.message) ∈ events

theorem Records.reports_log (h : Records w u) (words : String) (e : LoadError) :
    Reports w (u.log .error (words ++ e.message)) e := by
  obtain ⟨events, he⟩ := h
  refine ⟨events ++ [.log .error (words ++ e.message)], words, ?_, by simp⟩
  change (u.trace.push _).toList = _
  rw [Array.toList_push, ← he, List.append_assoc]

theorem Records.reports_failure (h : Records w u) (c : DocumentContext) (at_ : Location)
    (e : LoadError) : Reports w (reportFailure c at_ e u) e := by
  have line : Records w (u.log .error s!"An error occurred at line number {at_.line} in {c.name}:") :=
    Lasting.trans h (records_emit u _)
  have message := line.reports_log "" e
  rwa [String.empty_append] at message

theorem Records.reports (h : Records w u) (hr : Reports u v e) : Reports w v e := by
  obtain ⟨before, hb⟩ := h
  obtain ⟨events, words, hv, mem⟩ := hr
  refine ⟨before ++ events, words, ?_, List.mem_append_right _ mem⟩
  rw [hv, ← hb, List.append_assoc]

end World

open World (Records Reports)

/-- Whether a document all events of which are taken fails in a way that nothing is recorded of. -/
inductive Draft.EndsUnseen (l : Loader) (c : DocumentContext) (es : Xml.Events) (d : Draft)
    (w : World) : LoadError → World → Prop
  /-- It has no root, or an element without an end. -/
  | unfinished {e : LoadError} : es.fault = none → d.finish.runIn w = (.error e, w) →
    EndsUnseen l c es d w e w
  /-- What is to be run on its root fails. -/
  | root {root : Value} {u v : World} {e : LoadError} : es.fault = none →
    d.finish.runIn w = (.ok root, w) →
    (applyBindings l c ((c.held.keep (root :: d.parented.map .object)).keepTable c.table)
      (d.languageIn l) d.bindings).runIn w = (.ok (), u) →
    (completeRoot l c ((c.held.keep (root :: d.parented.map .object)).keepTable c.table) root).runIn
      u = (.error e, v) → EndsUnseen l c es d w e v

/-- Whether the load of a document fails in a way that nothing is recorded of. -/
inductive Loading.FailsUnseen (l : Loader) (D : Loading) : LoadError → World → Prop
  /-- Its text cannot be had. -/
  | unread {e : LoadError} : D.source.read l = .error e → FailsUnseen l D e D.world
  /-- It ends in such a way. -/
  | ending {source : String} {d : Draft} {e : LoadError} {w v : World} :
    D.source.read l = .ok source → D.taken l (Xml.events source).items = (.ok d, w) →
    d.EndsUnseen l D.context (Xml.events source) w e v → FailsUnseen l D e v

variable {l : Loader} {c : DocumentContext} {d : Draft} {es : Xml.Events} {D : Loading} {m : Moment}
  {e : LoadError} {u v w : World}

/-! ## Ends of documents -/

theorem Draft.finish_runIn (d : Draft) (w : World) : ∃ r, d.finish.runIn w = (r, w) := by
  unfold finish
  split
  · exact ⟨_, rfl⟩
  · split <;> exact ⟨_, rfl⟩

theorem reportFault_runIn (hf : es.fault = none) : (reportFault c es).runIn w = (.ok (), w) := by
  unfold reportFault
  rw [hf]
  rfl

/-- A document that fails when all its events are taken records it, or ends unseen. -/
theorem Draft.complete_error (hl : l.Keeps Records)
    (h : (d.complete l c es).runIn w = (.error e, v)) :
    Reports w v e ∨ d.EndsUnseen l c es w e v := by
  unfold complete at h
  cases hf : es.fault with
  | some f =>
    left
    unfold reportFault at h
    rw [hf] at h
    cases h
    exact Records.reports_failure (World.Lasting.refl w) _ _ _
  | none =>
    rw [Op.bind_runIn_of_ok (reportFault_runIn hf)] at h
    obtain ⟨r, finished⟩ := d.finish_runIn w
    cases r with
    | error f =>
      rw [Op.bind_runIn_of_error finished] at h
      cases h
      exact .inr (.unfinished hf finished)
    | ok root =>
      rw [Op.bind_runIn_of_ok finished, Op.bind_runIn_eq_error] at h
      obtain failed | ⟨_, u, bound, h⟩ := h
      · left
        rw [Op.onError_runIn] at failed
        have kept := hl.applyBindings c
          ((c.held.keep (root :: d.parented.map .object)).keepTable c.table) (d.languageIn l)
          d.bindings w
        split at failed
        · cases failed
        · next hb =>
          rw [hb] at kept
          cases failed
          exact Records.reports_log kept s!"Failed to bind {c.name}: " e
      · right
        rcases Op.bind_runIn_eq_error.1 h with failed | ⟨_, _, -, h⟩
        · exact .root hf finished (Op.onError_runIn_eq_ok.1 bound) failed
        · cases h

namespace Draft.EndsUnseen

theorem complete_eq (h : d.EndsUnseen l c es w e v) :
    (d.complete l c es).runIn w = (.error e, v) := by
  unfold complete
  cases h with
  | unfinished hf finished =>
    rw [Op.bind_runIn_of_ok (reportFault_runIn hf)]
    exact Op.bind_runIn_of_error finished
  | root hf finished bound failed =>
    rw [Op.bind_runIn_of_ok (reportFault_runIn hf), Op.bind_runIn_of_ok finished,
      Op.bind_runIn_of_ok (Op.onError_runIn_eq_ok.2 bound)]
    exact Op.bind_runIn_of_error failed

end Draft.EndsUnseen

/-! ## Loads -/

/-- What lasts does so while a document takes its events. -/
theorem Loading.taken_keeps {R : World → World → Prop} [World.Enduring R] (hl : l.Keeps R)
    {items : List Xml.Located} {r : Except LoadError Draft} (h : D.taken l items = (r, v)) :
    R D.world v := by
  have announced : R D.world (D.context.announce D.world) := World.Lasting.emit _ _
  exact World.Lasting.trans announced ((hl.takeEvents (hl.deeper D.depth) _ _ _).lasts h)

/-- What lasts does so up to the end of every event, also of one that fails. -/
theorem Loading.ComesTo.keeps_result {R : World → World → Prop} [World.Enduring R]
    (h : D.ComesTo l m) (hl : l.Keeps R) {r : Except LoadError Draft} (hr : m.result l = (r, v)) :
    R D.world v := by
  obtain ⟨source, before, after, -, -, taken⟩ := h.taken
  have nested : ∀ n, m.nested = some n → ∀ c parented source, (n c parented source).Keeps R := by
    rw [h.nested]
    exact hl.deeper D.depth
  exact World.Lasting.trans (taken_keeps hl taken) ((hl.step nested _ _ _).lasts hr)

theorem Loading.result_error_reported (hl : l.Keeps Records) (h : D.result l = (.error e, v)) :
    Reports D.world v e ∨ D.FailsUnseen l e v := by
  obtain ⟨unread, rfl⟩ | ⟨m, u, hm, hf, rfl⟩ | ⟨source, d, u, read, taken, failed⟩ :=
    result_eq_error h
  · exact .inr (.unread unread)
  · exact .inl (Records.reports_failure (hm.keeps_result hl hf) _ _ _)
  · have kept : Records D.world u := taken_keeps hl taken
    exact (Draft.complete_error hl failed).imp kept.reports (.ending read taken)

theorem Loading.FailsUnseen.result_eq (h : D.FailsUnseen l e v) : D.result l = (.error e, v) := by
  cases h with
  | unread unread => exact result_of_unread unread
  | ending read taken ends =>
    rw [result_of_read read, loadNested_eq, loadWith_runIn, Op.bind_runIn_of_ok taken]
    exact ends.complete_eq

/-- What nothing is recorded of is a failure of the outermost document itself. -/
theorem Loading.FailsUnseen.wrappers (h : D.FailsUnseen l e v) : e.wrappers = [] := by
  cases h with
  | unread unread => exact (Source.isOrdinary_of_read unread).wrappers
  | ending _ _ ends => exact (Draft.isOrdinary_complete _ _ _ _ _ ends.complete_eq).wrappers

/-! ## Whole loads -/

/-- The errors of an outermost document are recorded, or nothing is recorded of them. -/
theorem Loading.outcome_error_reported (hl : l.Keeps Records) (hw : Records w D.world)
    (e : LoadError) (v : World) :
    (D.outcome l = (.error e, v) → Reports w v e ∨ D.FailsUnseen l e v) ∧
      (D.FailsUnseen l e v → D.outcome l = (.error e, v) ∧ e.wrappers = []) := by
  rw [outcome_eq_error]
  exact ⟨fun failed => (result_error_reported hl failed).imp_left hw.reports,
    fun unseen => ⟨unseen.result_eq, unseen.wrappers⟩⟩

/-- A load that fails has recorded its error, unless the outermost document fails in a way that nothing
is recorded of; it does so exactly then, and not because of a document that it includes. -/
theorem reports_of_load (l : Loader) (hl : l.Keeps Records) (h : Held) (w : World) :
    (∀ source table location, ∃ c u,
      (l.outerContext h table none location).runIn w = (.ok c, u) ∧ ∀ e v,
        ((l.loadText h source table location).runIn w = (.error e, v) →
          Reports w v e ∨ (l.outermost c (.text source) u).FailsUnseen l e v) ∧
        ((l.outermost c (.text source) u).FailsUnseen l e v →
          (l.loadText h source table location).runIn w = (.error e, v) ∧ e.wrappers = [])) ∧
    ∀ location table bundle, ∃ c u,
      (l.outerContext h table bundle (some location)).runIn w = (.ok c, u) ∧ ∀ e v,
        ((l.loadUrl h location table bundle).runIn w = (.error e, v) →
          Reports w v e ∨ (l.outermost c (.resource location l.charset) u).FailsUnseen l e v) ∧
        ((l.outermost c (.resource location l.charset) u).FailsUnseen l e v →
          (l.loadUrl h location table bundle).runIn w = (.error e, v) ∧ e.wrappers = []) := by
  constructor
  · intro source table location
    obtain ⟨c, u, -, -, hc, run⟩ := l.loadText_runIn h source table location w
    refine ⟨c, u, hc, fun e v => ?_⟩
    rw [run]
    exact Loading.outcome_error_reported hl ((l.outerContext_keeps _ _ _ _).lasts hc) e v
  · intro location table bundle
    obtain ⟨c, u, -, -, hc, run⟩ := l.loadUrl_runIn h location table bundle w
    refine ⟨c, u, hc, fun e v => ?_⟩
    rw [run]
    exact Loading.outcome_error_reported hl ((l.outerContext_keeps _ _ _ _).lasts hc) e v

/-- An empty document that is included: it fails unseen, and the document that includes it does
not. -/
theorem reported_of_emptyInclusion :
    let source := "<A><x><bxml:include src='/'/></x></A>"
    let store := MemoryStore.empty.insert .fileRoot []
    let l := { Loader.plain with provider := store.provider }
    l.Keeps Records ∧ ∃ e v, (l.loadText .nothing source none none).runIn .empty = (.error e, v) ∧
      e.wrappers = [.fileRoot] ∧ Reports .empty v e := by
  intro source store l
  have keeps : l.Keeps Records := Loader.plain_keeps _
  have wrapped : (l.loadText .nothing source none none).fails .empty
      (fun e _ => decide (e.wrappers = [.fileRoot])) = true := by
    decide +kernel
  obtain ⟨e, v, run, wrappers⟩ := Op.exists_of_fails wrapped
  rw [decide_eq_true_eq] at wrappers
  obtain ⟨c, u, -, reported⟩ := (reports_of_load l keeps .nothing .empty).1 source none none
  refine ⟨keeps, e, v, run, wrappers, ((reported e v).1 run).resolve_right fun unseen => ?_⟩
  cases wrappers.symm.trans ((reported e v).2 unseen).2

/-- A text without a root, one with an element that does not end, and a document that is not
there. -/
theorem unreported_failures :
    let unreported (x : Op LoadError Outcome) : Prop :=
      ∃ e v, x.runIn .empty = (.error e, v) ∧ ¬ Reports .empty v e
    unreported (Loader.plain.loadText .nothing "" none none) ∧
      unreported (Loader.plain.loadText .nothing "<A>" none none) ∧
      unreported (Loader.plain.loadUrl .nothing .fileRoot none none) := by
  intro unreported
  have quiet {x : Op LoadError Outcome} (h : x.fails .empty
      (fun _ v => (v.trace.toList.filter (·.isUpTo .error)).isEmpty) = true) : unreported x := by
    obtain ⟨e, v, hr, silent⟩ := Op.exists_of_fails h
    refine ⟨e, v, hr, ?_⟩
    rintro ⟨events, words, hv, mem⟩
    have recorded : Event.log .error (words ++ e.message) ∈ v.trace.toList := by
      rw [hv]
      exact List.mem_append_right _ mem
    rw [List.isEmpty_iff, List.filter_eq_nil_iff] at silent
    exact silent _ recorded rfl
  refine ⟨quiet ?_, quiet ?_, quiet ?_⟩ <;> decide +kernel

end Bxml
