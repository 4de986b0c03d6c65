import Bxml.Proofs.Listening
import Bxml.Proofs.Load.Ids
import Bxml.Proofs.Load.Reports
import Bxml.Proofs.Load.Resources

/-!
# Which ids the scripts of events see

An attribute that names an event of an object installs its script, which knows the table of its
document but does not hold it.  The ids that a document registers stay in its table for good, so the
script sees all of them whenever somebody holds the table, and none of them otherwise.  After a load
it is the table of the outermost document that is held, which inline documents share.

`event_scripts_of_load` is the result, for every later world and every call.  Two facts about the
moment of an event last to the end of the load and beyond: an id is in the table
(`Loading.Registers.get?`), and a script is in a listener list (`Loading.HasEvent.installed`,
through `Moment.installed_of_close`).  Both last because listeners and ids are only ever added
(`World/Gathering.lean`).  `EventScript.Sees` says what a script sees when it is called, by
`Listening.lean`.

A document that is included by itself has a table of its own, which nobody holds after the load, so
that its scripts see no ids (`event_scripts_of_isolatedButton`).
-/

namespace Bxml

open World (Gathers Lasting)

/-- Whether an include element makes the document share the ids of the including one. -/
def Xml.StartTag.isInline (tag : Xml.StartTag) : Bool :=
  match lastNamed? inlineAttribute tag.attributes with
  | some v => Text.asciiLower (Text.trim v) == "true"
  | none => false

/-- Whether an element of a document ends that has an id and a value. -/
def Loading.Registers (l : Loader) (D : Loading) (id : String) (a : Value) : Prop :=
  ∃ m e outer, D.ComesTo l m ∧ m.event.event = .close ∧ m.draft.stack = e :: outer ∧
    e.id = some id ∧ e.value = a

/-- Whether an element of a document ends that holds an object with a listener list for the interface
that one of its attributes names. -/
def Loading.HasEvent (l : Loader) (D : Loading) (o : ObjectId) (i : Interface)
    (a : AttachedAttribute) : Prop :=
  ∃ m e outer list, D.ComesTo l m ∧ m.event.event = .close ∧ m.draft.stack = e :: outer ∧
    a ∈ e.attached ∧ e.value = .object o ∧
    (m.world.object o).listeners? (listenersProperty a.owner) = some list ∧ list.interface = i

variable {l : Loader} {c : DocumentContext} {D D' : Loading} {m : Moment} {w v : World}

/-! ## What lasts to the end of a load -/

section

variable {R : World → World → Prop} [World.Enduring R] (hl : l.Keeps R)

include hl

theorem Loading.ComesTo.lasts (h : D.ComesTo l m) : R D.world m.world := by
  obtain ⟨_, _, _, -, -, taken⟩ := h.taken
  exact taken_keeps hl taken

/-- The events of a document that loads succeed, and the load goes on from there. -/
theorem Loading.ComesTo.result_lasts (h : D.ComesTo l m) {x : Outcome × List ObjectId}
    (hr : D.result l = (.ok x, v)) : ∃ d u, m.result l = (.ok d, u) ∧ R u v := by
  obtain ⟨source, before, after, read, items, taken⟩ := h.taken
  rw [Loading.result_of_read read, loadNested_eq, loadWith_runIn, Op.bind_runIn_eq_ok, items] at hr
  obtain ⟨d, z, all, completed⟩ := hr
  obtain ⟨d', z', first, rest⟩ := takeEvents_append_eq_ok.1 all
  cases taken.symm.trans first
  obtain ⟨d'', u, now, rest⟩ := takeEvents_cons_eq_ok.1 rest
  refine ⟨d'', u, ?_, Lasting.trans ?_ ((hl.complete _ _ _).lasts completed)⟩
  · unfold Moment.result
    rw [h.context, h.nested]
    exact now
  · exact (hl.takeEvents (hl.deeper D.depth) D.context _ after).lasts rest

omit hl in
theorem Moment.Includes.result_of_ok {u : Url} {d : Draft} (h : m.Includes l u D)
    (hm : m.result l = (.ok d, v)) : ∃ x, D.result l = (.ok x, v) := by
  rcases hr : D.result l with ⟨e | x, z⟩
  · rw [h.result_of_error hr] at hm
    cases hm
  · obtain ⟨i, hi, rfl, hc, hs⟩ := h.included
    cases read : l.readText i.url i.charset with
    | error e =>
      rw [Loading.result_of_unread (e := e) (by rw [← hs]; exact read)] at hr
      cases hr
    | ok source =>
      have same := (Moment.result_of_document hi read).1
      rw [hm, h.parented, hc, ← Loading.result_of_read (by rw [← hs]; exact read), hr] at same
      cases same
      exact ⟨x, rfl⟩

/-- The documents of a load that succeeds are loaded themselves. -/
theorem LeadsThrough.result_lasts {tags : List Xml.StartTag} (h : LeadsThrough l D tags D')
    {x : Outcome × List ObjectId} (hr : D.result l = (.ok x, v)) :
    ∃ y u, D'.result l = (.ok y, u) ∧ R u v := by
  induction h generalizing x v with
  | refl D => exact ⟨x, v, hr, Lasting.refl v⟩
  | step hm _ _ included _ ih =>
    obtain ⟨d, u, now, later⟩ := hm.result_lasts hl hr
    obtain ⟨y, inside⟩ := included.result_of_ok now
    obtain ⟨z, u', loaded, lasts⟩ := ih inside
    exact ⟨z, u', loaded, Lasting.trans lasts later⟩

end

/-! ## Tables -/

/-- An included document has a table that exists. -/
theorem prepareInclusion_table_lt {α : Type} {nested : Option α} {d : Draft} {e : Element} {a : α}
    {i : Inclusion} (ht : c.table.index < w.tables.size)
    (h : (prepareInclusion l c nested d e).runIn w = (.ok (a, i), v)) :
    i.context.table.index < v.tables.size := by
  have keeps : World.KeepsIds w v := (keeps_prepareInclusion l c nested d e).lasts h
  simp only [prepareInclusion, Op.bind_runIn_eq_ok] at h
  obtain ⟨_, _, -, _, _, -, _, _, -, _, _, -, _, _, -, t, w₆, h₆, _, _, hu, _, _, hlog, h⟩ := h
  cases h
  obtain ⟨-, rfl⟩ := Op.ofExcept_runIn_eq_ok.1 hu
  cases hlog
  unfold includeTable at h₆
  split at h₆
  · cases h₆
    exact Nat.lt_of_lt_of_le ht keeps.size_le
  · cases h₆
    simp [World.allocTable, World.log, World.emit]

namespace Moment.Includes

variable {u : Url} (h : m.Includes l u D)

include h

theorem table_lt (hl : l.Keeps Gathers) (ht : m.context.table.index < m.world.tables.size) :
    D.context.table.index < D.world.tables.size := by
  obtain ⟨i, hi, -, hc, -⟩ := h.included
  obtain ⟨tag, x, -, hs⟩ := included?_eq_some hi
  simp only [startElement, Op.bind_runIn_eq_ok] at hs
  obtain ⟨found, z, hf, y, z', ha, hs⟩ := hs
  have lasts : Gathers m.world z' := Lasting.trans ((hl.classify _ _ _).lasts hf)
    ((Op.Keeps.foldlM (Attributed.keeps_add _ _)).lasts ha)
  split at hs
  · simp only [Op.bind_runIn_eq_ok] at hs
    obtain ⟨⟨n, j⟩, _, hp, hs⟩ := hs
    cases hs
    rw [← hc]
    exact prepareInclusion_table_lt (Nat.lt_of_lt_of_le ht lasts.size) hp
  · simp only [Op.bind_runIn_eq_ok] at hs
    obtain ⟨_, _, -, hs⟩ := hs
    cases hs
  · cases hs

/-- A document that is included inline shares the table of the including one. -/
theorem table_of_isInline {tag : Xml.StartTag} (he : m.event.event = .start tag)
    (inline : tag.isInline = true) : D.context.table = m.context.table := by
  obtain ⟨i, hi, -, hc, -⟩ := h.included
  obtain ⟨tag', x, he', hs⟩ := included?_eq_some hi
  obtain rfl := Xml.Event.start.inj (he.symm.trans he')
  obtain ⟨z, hp⟩ := startElement_inclusion hs
  have shares : isInline x.element = true := by
    unfold isInline
    rw [startElement_inclusion_control hs (by decide)]
    exact inline
  have table := prepareInclusion_table hp
  rwa [if_pos shares, hc] at table

end Moment.Includes

namespace LeadsThrough

variable {tags : List Xml.StartTag} (h : LeadsThrough l D tags D')

include h

theorem table_lt (hl : l.Keeps Gathers) (ht : D.context.table.index < D.world.tables.size) :
    D'.context.table.index < D'.world.tables.size := by
  induction h with
  | refl D => exact ht
  | step hm _ _ included _ ih =>
    refine ih (included.table_lt hl ?_)
    rw [hm.context]
    exact Nat.lt_of_lt_of_le ht (hm.lasts hl).size

theorem table_of_isInline (inline : ∀ tag ∈ tags, tag.isInline = true) :
    D'.context.table = D.context.table := by
  induction h with
  | refl D => rfl
  | step hm he _ included _ ih =>
    rw [ih fun tag ht => inline tag (List.mem_cons_of_mem _ ht),
      included.table_of_isInline he (inline _ List.mem_cons_self), hm.context]

end LeadsThrough

/-! ## Ends of elements -/

section

variable (hl : l.Keeps Gathers)

include hl

/-- An id that is registered is in the table from then on. -/
theorem get?_of_registerId {h : Held} {e : Element} {id : String}
    (ht : c.table.index < w.tables.size) (he : e.id = some id)
    (hr : (registerId l c h e).runIn w = (.ok (), v)) :
    (v.table c.table).get? id = some e.value := by
  unfold registerId at hr
  rw [he] at hr
  dsimp only at hr
  rw [Op.bind_runIn_eq_ok] at hr
  obtain ⟨_, u, registered, hr⟩ := hr
  have now : w.putId c.table id e.value = .ok u := by
    rw [Op.mapError_runIn_eq_ok, Op.update_runIn] at registered
    split at registered
    · next h =>
      cases registered
      exact h
    · cases registered
  have known : (u.table c.table).get? id = some e.value := by
    rw [World.get?_putId ht now, if_pos rfl]
  refine Gathers.ids (Op.Keeps.lasts ?_ hr) known
  split
  · refine .bind (.read _) fun property => ?_
    split
    · exact .mapError _ (hl.host.setProperty _ _ _ _)
    · exact .pure _
  · exact .pure _

omit hl in
/-- An attribute that names an event installs its script. -/
theorem installed_of_applyAttachedAttribute {h : Held} {language : String} {o : ObjectId}
    {at_ : Location} {a : AttachedAttribute} {list : ListenerList}
    (hw : (w.object o).listeners? (listenersProperty a.owner) = some list)
    (hr : (applyAttachedAttribute l c h language o at_ a).runIn w = (.ok (), v)) :
    ∃ engine, v.Installed o (listenersProperty a.owner)
      (.script ⟨list.interface, engine, a.member, a.value, some c.table⟩) := by
  unfold applyAttachedAttribute at hr
  rw [Op.bind_runIn_of_ok (Op.read_runIn _ _), hw] at hr
  simp only [installEventScript, Op.bind_runIn_eq_ok] at hr
  obtain ⟨_, _, required, engine, _, found, _, _, logged, hr⟩ := hr
  obtain rfl := (require_eq_ok.1 required).2
  obtain ⟨-, rfl⟩ := Op.ofExcept_runIn_eq_ok.1 found
  cases logged
  cases hr
  exact ⟨engine, World.installed_addListener hw _⟩

theorem installed_of_applyAttachedAttributes {h : Held} {language : String} {e : Element}
    {o : ObjectId} {a : AttachedAttribute} {list : ListenerList} (ho : e.value = .object o)
    (ha : a ∈ e.attached)
    (hw : (w.object o).listeners? (listenersProperty a.owner) = some list)
    (hr : (applyAttachedAttributes l c h language e).runIn w = (.ok (), v)) :
    ∃ engine, v.Installed o (listenersProperty a.owner)
      (.script ⟨list.interface, engine, a.member, a.value, some c.table⟩) := by
  unfold applyAttachedAttributes at hr
  rw [if_neg (by simpa using List.ne_nil_of_mem ha), ho, Op.bind_runIn_eq_ok] at hr
  obtain ⟨_, _, object, hr⟩ := hr
  cases object
  generalize e.attached = attached at ha hr
  induction attached generalizing w list with
  | nil => cases ha
  | cons b r ih =>
    obtain ⟨_, u, now, rest⟩ := Op.bind_runIn_eq_ok.1 hr
    have lasts : Gathers w u := (hl.applyAttachedAttribute _ _ _ _ _ _).lasts now
    rcases List.mem_cons.1 ha with rfl | ha
    · obtain ⟨engine, installed⟩ := installed_of_applyAttachedAttribute hw now
      refine ⟨engine, Gathers.installed (Op.Keeps.lasts (.forM fun b => ?_) rest) installed⟩
      exact hl.applyAttachedAttribute _ _ _ _ _ _
    · obtain ⟨more, hu⟩ := lasts.listeners _ _ _ hw
      obtain ⟨engine, installed⟩ := ih hu ha rest
      exact ⟨engine, installed⟩

/-- What is attached to an element is applied last when the element ends, apart from its id. -/
theorem attached_of_closeAs {d d' : Draft} {e : Element} (hk : e.kind.acceptsAttached = true)
    (h : (closeAs l c d e).runIn w = (.ok d', v)) : ∃ held language u, Gathers w u ∧
      (applyAttachedAttributes l c held language e).runIn u = (.ok (), v) := by
  have kind : e.kind = .instanceOf ∨ e.kind = .inclusion := by
    cases h : e.kind <;> rw [h] at hk <;> simp_all [ElementKind.acceptsAttached]
  unfold closeAs at h
  rcases kind with hk | hk <;>
    simp only [hk, Op.bind_runIn_eq_ok] at h <;>
    obtain ⟨_, u, applied, d₁, z, composed, _, z', attached, h⟩ := h <;>
    cases h <;>
    exact ⟨_, _, z, Lasting.trans ((hl.applyAttributes _ _).lasts applied)
      ((hl.compose _ _ _).lasts composed), attached⟩

/-- Where the element of an object ends, the scripts of its events are installed. -/
theorem Moment.installed_of_close (sound : m.draft.IsSound) {e : Element} {outer : List Element}
    {o : ObjectId} {a : AttachedAttribute} {list : ListenerList} {d : Draft}
    (he : m.event.event = .close) (hs : m.draft.stack = e :: outer) (ha : a ∈ e.attached)
    (ho : e.value = .object o)
    (hw : (m.world.object o).listeners? (listenersProperty a.owner) = some list)
    (hr : m.result l = (.ok d, v)) : ∃ engine, v.Installed o (listenersProperty a.owner)
      (.script ⟨list.interface, engine, a.member, a.value, some m.context.table⟩) := by
  have accepts := (hs ▸ sound.stack).1.accepts (List.ne_nil_of_mem ha)
  unfold Moment.result at hr
  rw [Draft.step_of_close he] at hr
  obtain ⟨e', outer', d', u, hs', closed, registered, -⟩ := Draft.closeElement_eq_ok hr
  obtain ⟨rfl, rfl⟩ := List.cons.inj (hs.symm.trans hs')
  obtain ⟨_, _, z, before, attached⟩ := attached_of_closeAs hl accepts closed
  obtain ⟨more, found⟩ := before.listeners _ _ _ hw
  obtain ⟨engine, installed⟩ := installed_of_applyAttachedAttributes hl ho ha found attached
  exact ⟨engine, Gathers.installed ((hl.registerId _ _ _).lasts registered) installed⟩

/-! ## Documents -/

/-- The ids that a document registers are in its table from the end of the load on. -/
theorem Loading.Registers.get? {x : Outcome × List ObjectId} {id : String} {a : Value}
    (h : D.Registers l id a) (ht : D.context.table.index < D.world.tables.size)
    (hr : D.result l = (.ok x, v)) : (v.table D.context.table).get? id = some a := by
  obtain ⟨m, e, outer, hm, he, hs, hid, rfl⟩ := h
  obtain ⟨d, u, now, later⟩ := hm.result_lasts hl hr
  unfold Moment.result at now
  rw [Draft.step_of_close he, hm.context] at now
  obtain ⟨e', outer', d', z, hs', closed, registered, -⟩ := Draft.closeElement_eq_ok now
  obtain ⟨rfl, rfl⟩ := List.cons.inj (hs.symm.trans hs')
  have lasts : Gathers D.world z := Lasting.trans (hm.lasts hl) ((hl.closeAs _ _ _).lasts closed)
  exact later.ids (get?_of_registerId hl (Nat.lt_of_lt_of_le ht lasts.size) hid registered)

theorem Loading.HasEvent.installed {x : Outcome × List ObjectId} {o : ObjectId} {i : Interface}
    {a : AttachedAttribute} (h : D.HasEvent l o i a) (hr : D.result l = (.ok x, v)) :
    ∃ engine, v.Installed o (listenersProperty a.owner)
      (.script ⟨i, engine, a.member, a.value, some D.context.table⟩) := by
  obtain ⟨m, e, outer, list, hm, he, hs, ha, ho, hw, rfl⟩ := h
  obtain ⟨d, u, now, later⟩ := hm.result_lasts hl hr
  obtain ⟨engine, installed⟩ := Moment.installed_of_close hl hm.isSound he hs ha ho hw now
  rw [hm.context] at installed
  exact ⟨engine, later.installed installed⟩

end

/-! ## Loads -/

/-- Whether an event script of a document sees the ids of the document when it is called in a world
by somebody who holds its table, and no ids when nobody does. -/
structure EventScript.Sees (s : EventScript) (l : Loader) (D : Loading) (w : World) (h : Held) :
    Prop where
  held (args : List Value) : D.context.table ∈ h.tables → ∃ ids, s.RunsWith l.host h args w ids ∧
    ∀ id a, D.Registers l id a → ids.get? id = some a
  gone (args : List Value) : D.context.table ∉ h.tables → s.RunsWith l.host h args w .empty

/-- Whether the load of a document that no other one includes leaves every attribute named by an
event with a script that sees the ids of its document, in every later world. -/
def Loading.ScriptsSee (l : Loader) (D : Loading) : Prop :=
  ∀ outcome v, D.outcome l = (.ok outcome, v) → ∀ tags D', LeadsThrough l D tags D' →
    ((∀ tag ∈ tags, tag.isInline = true) → D'.context.table = outcome.table) ∧
    ∀ o i a, D'.HasEvent l o i a → ∃ engine,
      let s : EventScript := ⟨i, engine, a.member, a.value, some D'.context.table⟩
      ∀ v', v.Gathers v' →
        v'.Installed o (listenersProperty a.owner) (.script s) ∧
        (∀ h, s.Sees l D' v' h) ∧
        ∀ h list args answers z, (v'.object o).listeners? (listenersProperty a.owner) = some list →
          (l.host.fire h list a.member args).runIn v' = (.ok answers, z) →
          ∃ u answer z', v'.Gathers u ∧ answer ∈ answers ∧
            (l.host.call (h.keep args) a.member args (.script s)).runIn u = (.ok answer, z')

theorem Draft.complete_table {d : Draft} {es : Xml.Events} {x : Outcome × List ObjectId}
    (h : (d.complete l c es).runIn w = (.ok x, v)) : x.1.table = c.table := by
  simp only [Draft.complete, Op.bind_runIn_eq_ok] at h
  obtain ⟨_, _, -, _, _, -, _, _, -, _, _, -, _, _, -, _, _, -, h⟩ := h
  cases h
  rfl

/-- A load leaves the table of its document. -/
theorem Loading.result_table {x : Outcome × List ObjectId} (h : D.result l = (.ok x, v)) :
    x.1.table = D.context.table := by
  cases hr : D.source.read l with
  | error e =>
    rw [result_of_unread hr] at h
    cases h
  | ok source =>
    rw [result_of_read hr, loadNested_eq, loadWith_runIn, Op.bind_runIn_eq_ok] at h
    obtain ⟨d, u, -, completed⟩ := h
    exact Draft.complete_table completed

theorem Loading.scriptsSee (hl : l.Keeps Gathers)
    (ht : D.context.table.index < D.world.tables.size) : D.ScriptsSee l := by
  intro outcome v hv tags D' leads
  obtain ⟨x, hr, rfl⟩ : ∃ x, D.result l = (.ok x, v) ∧ x.1 = outcome := by
    unfold Loading.outcome at hv
    rcases hr : D.result l with ⟨e | x, u⟩ <;> rw [hr] at hv <;> cases hv
    exact ⟨x, rfl, rfl⟩
  obtain ⟨y, u, loaded, later⟩ := leads.result_lasts hl hr
  refine ⟨fun inline => ?inline, fun o i a event => ?script⟩
  case inline => rw [leads.table_of_isInline inline, Loading.result_table hr]
  case script =>
    obtain ⟨engine, installed⟩ := event.installed hl loaded
    refine ⟨engine, ?_⟩
    intro s v' hv'
    have table : s.table = some D'.context.table := rfl
    have lasts : Gathers u v' := Lasting.trans later hv'
    have here := lasts.installed installed
    refine ⟨here, fun h => ⟨fun args held => ?held, fun args gone => ?gone⟩,
      fun h list args answers z hlist hf => ?fired⟩
    case held =>
      refine ⟨v'.table D'.context.table, ?_, fun id a registered => ?_⟩
      · rw [← EventScript.ids_of_mem v' table held]
        exact EventScript.runsWith_ids _ _ _ _ _
      · exact lasts.ids (registered.get? hl (leads.table_lt hl ht) loaded)
    case gone =>
      rw [← EventScript.ids_of_not_mem v' table gone]
      exact EventScript.runsWith_ids _ _ _ _ _
    case fired =>
      obtain ⟨list', hlist', script⟩ := here
      cases hlist.symm.trans hlist'
      obtain ⟨u', answer, z', lasts', known, called⟩ := hl.host.exists_call_of_fire hf script
      exact ⟨u', answer, z', lasts', known, called⟩

/-- After a load every attribute named by an event has a script that sees the ids of its document, in
the outermost document and in those that are included inline from it, for as long as the outcome is
held; in any other document it sees them while the table of that document is held. -/
theorem event_scripts_of_load (l : Loader) (hl : l.Keeps Gathers) (h : Held)
    (table : Option TableId) (w : World) (ht : ∀ t, table = some t → t.index < w.tables.size) :
    (∀ source location, ∃ c u, (l.outerContext h table none location).runIn w = (.ok c, u) ∧
      (l.loadText h source table location).runIn w = (l.outermost c (.text source) u).outcome l ∧
      (l.outermost c (.text source) u).ScriptsSee l) ∧
    (∀ location bundle, ∃ c u,
      (l.outerContext h table bundle (some location)).runIn w = (.ok c, u) ∧
      (l.loadUrl h location table bundle).runIn w =
        (l.outermost c (.resource location l.charset) u).outcome l ∧
      (l.outermost c (.resource location l.charset) u).ScriptsSee l) := by
  have exists_table {bundle : Option Bundle} {location : Option Url} {c : DocumentContext} {u : World}
      (hc : (l.outerContext h table bundle location).runIn w = (.ok c, u)) :
      c.table.index < u.tables.size := by
    cases table with
    | none =>
      cases hc
      simp [World.allocTable]
    | some t =>
      cases hc
      exact ht t rfl
  refine ⟨fun source location => ?text, fun location bundle => ?url⟩
  case text =>
    obtain ⟨c, u, -, -, hc, run⟩ := l.loadText_runIn h source table location w
    exact ⟨c, u, hc, run, Loading.scriptsSee hl (exists_table hc)⟩
  case url =>
    obtain ⟨c, u, -, -, hc, run⟩ := l.loadUrl_runIn h location table bundle w
    exact ⟨c, u, hc, run, Loading.scriptsSee hl (exists_table hc)⟩

/-! ## Buttons that tell what they see -/

/-- An engine that answers every text with the ids that it sees. -/
def Engine.reciting : Engine :=
  ⟨defaultLanguage, .empty,
    some fun _ _ t => Op.read fun w => .string (",".intercalate (w.table t).keys)⟩

/-- The loader of buttons with such an engine, and one other file. -/
def Loader.reciting (file : String) : Loader :=
  { Loader.buttons with
    host := { Host.plain defaultLanguage with engine := fun _ => .reciting }
    languages := Languages.empty.register ⟨0⟩ defaultLanguage [] []
    provider := (MemoryStore.empty.insert .fileRoot (Url.utf8 file.toList)).provider }

/-- A button with an id that is asked for the ids it sees when it is clicked. -/
def recitingButton : String := "<Button bxml:id='b' ClickListener.clicked='go'/>"

theorem Loader.reciting_keeps (file : String) : (Loader.reciting file).Keeps Gathers := by
  refine Loader.keeps_of_single ⟨?function, ?evaluator, fun _ _ _ _ _ => .pure ()⟩ rfl
    fun w => Lasting.alloc w _
  case function =>
    intro _ _ _ hf
    cases hf
  case evaluator =>
    intro _ _ hf _ _ _
    cases hf
    exact .read _

/-- What a button answers to a click when only the outcome of the load is held. -/
def Loader.clicked (l : Loader) (source : String) (o : ObjectId) : Option (List Value) :=
  match (l.loadText .nothing source none none).runIn .empty with
  | (.ok outcome, w) =>
    ((w.object o).listeners? "clickListeners").bind fun list =>
      ((l.host.fire ⟨[outcome.root], [outcome.table]⟩ list "clicked" []).runIn w).1.toOption
  | (.error _, _) => none

/-- A button that is loaded by itself, or included inline, sees its id. -/
theorem event_scripts_of_recitingButton :
    let l := Loader.reciting recitingButton
    let event : AttachedAttribute := ⟨"ClickListener", "ClickListener", "clicked", "go"⟩
    l.Keeps Gathers ∧ (∀ t, (none : Option TableId) = some t → t.index < World.empty.tables.size) ∧
      (∃ D : Loading, (l.loadText .nothing recitingButton none none).runIn .empty = D.outcome l ∧
        D.ScriptsSee l ∧ D.Registers l "b" (.object ⟨0⟩) ∧
        D.HasEvent l ⟨0⟩ ⟨"Click", [⟨"clicked", .unit⟩]⟩ event) ∧
      l.clicked recitingButton ⟨0⟩ = some [.string "b,arguments"] ∧
      l.clicked ("<Button><bxml:define><bxml:include bxml:id='i' src='/' inline='true'/>" ++
        "</bxml:define></Button>") ⟨1⟩ = some [.string "b,i,arguments"] := by
  intro l event
  have keeps : l.Keeps Gathers := Loader.reciting_keeps _
  have table : ∀ t, (none : Option TableId) = some t → t.index < World.empty.tables.size := by
    rintro _ ⟨⟩
  refine ⟨keeps, table, ?_, by decide +kernel, by decide +kernel⟩
  obtain ⟨c, u, hc, run, sees⟩ :=
    (event_scripts_of_load l keeps .nothing none .empty table).1 recitingButton none
  cases hc
  let D := l.outermost (.outer none) (.text recitingButton) .blank
  have items : (Xml.events recitingButton).items =
      (Xml.events recitingButton).items.take 1 ++ [⟨.close, ⟨1, 49⟩, ⟨1, 49⟩⟩] := by
    decide +kernel
  have opened : (takeEvents l (.outer none) (l.deeper l.maxDepth) (.start [])
      ((Xml.events recitingButton).items.take 1)).succeeds
        (DocumentContext.announce (.outer none) .blank) (fun d v => decide
          (d.stack.map (fun e => (e.attached, e.id, e.value)) = [([event], some "b", .object ⟨0⟩)] ∧
            ((v.object ⟨0⟩).listeners? (listenersProperty event.owner)).map (·.interface) =
              some ⟨"Click", [⟨"clicked", .unit⟩]⟩)) = true := by
    decide +kernel
  obtain ⟨d, v, taken, reached⟩ := Op.exists_of_succeeds opened
  obtain ⟨stack, listeners⟩ := of_decide_eq_true reached
  obtain ⟨e, hs, he⟩ := List.map_eq_singleton_iff.1 stack
  obtain ⟨list, hlist, interface⟩ := Option.map_eq_some_iff.1 listeners
  obtain ⟨attached, id, value⟩ : e.attached = [event] ∧ e.id = some "b" ∧ e.value = .object ⟨0⟩ := by
    simpa using he
  let m : Moment := ⟨.outer none, l.deeper l.maxDepth, d, ⟨.close, ⟨1, 49⟩, ⟨1, 49⟩⟩, v⟩
  have comes : D.ComesTo l m :=
    ⟨rfl, rfl, recitingButton, (Xml.events recitingButton).items.take 1, [], rfl, items, taken⟩
  exact ⟨D, run, sees, ⟨m, e, [], comes, rfl, hs, id, value⟩,
    ⟨m, e, [], list, comes, rfl, hs, attached ▸ List.mem_singleton_self event, value, hlist, interface⟩⟩

/-- A button that is included by itself does not see its id once it is loaded, although its document
has registered it. -/
theorem event_scripts_of_isolatedButton :
    let l := Loader.reciting recitingButton
    let source := "<Button><bxml:define><bxml:include bxml:id='i' src='/'/></bxml:define></Button>"
    (l.loadText .nothing source none none).succeeds .empty (fun outcome w =>
        (w.table outcome.table).keys == ["i"] && (w.table ⟨1⟩).keys == ["b"] &&
        ((w.object ⟨1⟩).listeners? "clickListeners").any (·.listeners.any fun
          | .script s => s.event == "clicked" && s.script == "go" && s.table == some ⟨1⟩
          | _ => false)) = true ∧
      l.clicked source ⟨1⟩ = some [.string "arguments"] := by
  decide +kernel

end Bxml
