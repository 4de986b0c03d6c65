import Bxml.Proofs.Listening

/-!
# Event scripts see copies

The script of an event is evaluated with a copy of the ids of its document, made anew for each call.
What an evaluation registers is in its own table only, and the document has the ids that were
registered in its table and no others, however often the script is called:
`EventScript.sees_copy_of_ids`.

A history is a list of `Happening`s, registrations of ids in the document and calls of the script,
and `World.after` is what they leave.  `EventScript.Responds` says what one call does; that it
leaves the ids of the document alone is `table_of_call`, and the result follows by induction on the
history.  An engine may have another way to the table of the document, by functions that a host gave
it; `Engine.Spares` says that it does not use one.
-/

namespace Bxml

/-! ## Registering ids -/

/-- Registers an id, unless it is taken. -/
def Entries.register (ids : Entries Value) (id : String) (v : Value) : Entries Value :=
  if ids.contains id then ids else ids.insert id v

/-- Registers an id in a table, unless it is taken. -/
def World.register (w : World) (t : TableId) (id : String) (v : Value) : World :=
  (w.putId t id v).toOption.getD w

namespace World

variable {w : World} {t t' : TableId} {id : String} {v : Value}

theorem register_of_taken (h : (w.table t).contains id = true) : w.register t id v = w := by
  rw [register, putId, if_pos h]
  rfl

theorem putId_register (h : ¬ (w.table t).contains id = true) :
    w.putId t id v = .ok (w.register t id v) := by
  rw [register, putId, if_neg h]
  rfl

theorem size_tables_register : (w.register t id v).tables.size = w.tables.size := by
  by_cases h : (w.table t).contains id = true
  · rw [register_of_taken h]
  · exact tables_size_putId (putId_register h)

theorem table_register (ht : t.index < w.tables.size) :
    (w.register t id v).table t = (w.table t).register id v := by
  by_cases h : (w.table t).contains id = true
  · rw [register_of_taken h, Entries.register, if_pos h]
  · rw [table_putId_eq_insert ht (putId_register h), Entries.register, if_neg h]

theorem table_register_of_ne (h : t' ≠ t) : (w.register t' id v).table t = w.table t := by
  by_cases taken : (w.table t').contains id = true
  · rw [register_of_taken taken]
  · exact table_putId_of_ne h (putId_register taken)

end World

/-! ## Calls -/

namespace EventScript

variable (e : EventScript) (host : Host) (h : Held) (method : String) (args : List Value) (w : World)

/-- What a call of the event gives when the evaluation of the script gives `r`. -/
def outcome (r : Except ScriptError Value) : Value :=
  match r with
  | .ok v => if v.isNull then e.interface.defaultResult e.event else v
  | .error _ => e.interface.defaultResult e.event

/-- The evaluation of the script with the ids of a table. -/
def evaluation (t : TableId) : Op ScriptError Value :=
  (host.engine e.engine).eval ((h.keep args).keepTable t) e.script t

/-- Whether a call of the event evaluates the script once, with a table of its own that has some ids
and the arguments, and does nothing else to objects and tables. -/
def Evaluates (ids : Entries Value) : Prop :=
  ∃ u r v z, w.Prepares ids args u ∧ (e.evaluation host h args ⟨w.tables.size⟩).runIn u = (r, v) ∧
    (host.call h e.event args (.script e)).runIn w = (.ok (e.outcome r), z) ∧
    z.objects = v.objects ∧ z.tables = v.tables

/-- Whether a call of a method evaluates the script if the method is the event of the script, and
otherwise does nothing and gives the default result. -/
structure Responds (ids : Entries Value) : Prop where
  event : method = e.event → e.Evaluates host h args w ids
  other : method ≠ e.event →
    (host.call h method args (.script e)).runIn w = (.ok (e.interface.defaultResult method), w)

variable {e host h args} in
theorem evaluateScript_runIn {t : TableId} {u v : World} {r : Except ScriptError Value}
    (evaluated : (e.evaluation host h args t).runIn u = (r, v)) :
    ∃ z, (host.evaluateScript h e args t).runIn u = (.ok (e.outcome r), z) ∧
      z.objects = v.objects ∧ z.tables = v.tables := by
  have attempted : ((e.evaluation host h args t).attempt : Op ListenerError _).runIn u =
      (.ok r, v) := by
    rw [Op.attempt_runIn, evaluated]
  unfold Host.evaluateScript
  cases r with
  | ok a => exact ⟨v, Op.bind_runIn_of_ok attempted, rfl, rfl⟩
  | error x => exact ⟨_, Op.bind_runIn_of_ok attempted, rfl, rfl⟩

theorem evaluates_ids : e.Evaluates host h args w (e.ids h w) := by
  obtain ⟨u, prepares, called⟩ := host.call_script_runIn h e args w
  rcases evaluated : (e.evaluation host h args ⟨w.tables.size⟩).runIn u with ⟨r, v⟩
  obtain ⟨z, answered, objects, tables⟩ := evaluateScript_runIn evaluated
  exact ⟨u, r, v, z, prepares, evaluated, called.trans answered, objects, tables⟩

theorem call_of_ne (hm : method ≠ e.event) :
    (host.call h method args (.script e)).runIn w =
      (.ok (e.interface.defaultResult method), w) := by
  rw [Host.call, Host.callScript, if_pos (bne_iff_ne.2 hm)]
  rfl

theorem responds_ids : e.Responds host h method args w (e.ids h w) where
  event _ := e.evaluates_ids host h args w
  other hm := e.call_of_ne host h method args w hm

end EventScript

/-! ## Calls one after the other -/

/-- Whether the evaluation of a text with the ids of another table leaves the ids of `t` as they
are, so that it has no other way to reach them. -/
def Engine.Spares (engine : Engine) (t : TableId) : Prop :=
  ∀ h source t' w r v, t' ≠ t → t.index < w.tables.size →
    (engine.eval h source t').runIn w = (r, v) → t.index < v.tables.size ∧ v.table t = w.table t

/-- What may happen to an event script: an id of its document is registered, or it is called. -/
inductive Happening
  | registered (id : String) (v : Value)
  | called (h : Held) (method : String) (args : List Value)

/-- The ids of the document after it has happened. -/
def Happening.ids (ids : Entries Value) : Happening → Entries Value
  | .registered id v => ids.register id v
  | .called _ _ _ => ids

namespace EventScript

variable (e : EventScript) (host : Host) (t : TableId) (w : World)

/-- The world after something has happened, where the document has the table `t`. -/
def afterOne (w : World) : Happening → World
  | .registered id v => w.register t id v
  | .called h method args => ((host.call h method args (.script e)).runIn w).2

/-- The world after some things have happened, one after the other. -/
def after (history : List Happening) : World := history.foldl (e.afterOne host t) w

variable {e host t w}

/-- The ids of a document are the same after a call of the script. -/
theorem table_of_call (spares : (host.engine e.engine).Spares t) (ht : t.index < w.tables.size)
    {h : Held} {method : String} {args : List Value} {r : Except ListenerError Value} {z : World}
    (hc : (host.call h method args (.script e)).runIn w = (r, z)) :
    t.index < z.tables.size ∧ z.table t = w.table t := by
  by_cases hm : method = e.event
  · subst hm
    obtain ⟨u, _, v, z', prepares, evaluated, called, -, tables⟩ := e.evaluates_ids host h args w
    cases hc.symm.trans called
    have own : (⟨w.tables.size⟩ : TableId) ≠ t := by
      rintro rfl
      exact Nat.lt_irrefl _ ht
    have exist : t.index < u.tables.size := by
      rw [prepares.size_tables]
      exact Nat.lt_succ_of_lt ht
    obtain ⟨exist', spared⟩ := spares _ _ _ u _ v own exist evaluated
    rw [← prepares.table_eq ht, ← spared]
    unfold World.table
    rw [tables]
    exact ⟨exist', rfl⟩
  · rw [e.call_of_ne host h method args w hm] at hc
    cases hc
    exact ⟨ht, rfl⟩

theorem table_afterOne (spares : (host.engine e.engine).Spares t) (ht : t.index < w.tables.size)
    (x : Happening) : t.index < (e.afterOne host t w x).tables.size ∧
      (e.afterOne host t w x).table t = x.ids (w.table t) := by
  cases x with
  | registered id v =>
    refine ⟨?_, World.table_register ht⟩
    change t.index < (w.register t id v).tables.size
    rwa [World.size_tables_register]
  | called h method args => exact table_of_call spares ht rfl

theorem table_after (spares : (host.engine e.engine).Spares t) (ht : t.index < w.tables.size)
    (history : List Happening) :
    (e.after host t w history).table t = history.foldl Happening.ids (w.table t) := by
  induction history generalizing w with
  | nil => rfl
  | cons x r ih =>
    obtain ⟨still, now⟩ := table_afterOne spares ht x
    rw [List.foldl_cons, ← now]
    exact ih still

/-- Whoever calls an event script while its document is there has it evaluated with the ids that the
document has, and with the arguments.  The document has the ids that were registered in its table, and
no others, however often the script was called. -/
theorem sees_copy_of_ids (e : EventScript) (t : TableId) (he : e.table = some t) (host : Host)
    (w : World) :
    (∀ h method args, t ∈ h.tables → e.Responds host h method args w (w.table t)) ∧
      ((host.engine e.engine).Spares t → t.index < w.tables.size → ∀ history,
        let ids := history.foldl Happening.ids (w.table t)
        (e.after host t w history).table t = ids ∧ ∀ h method args, t ∈ h.tables →
          e.Responds host h method args (e.after host t w history) ids) := by
  have responds (v : World) (h : Held) (method : String) (args : List Value) (ht : t ∈ h.tables) :
      e.Responds host h method args v (v.table t) := by
    rw [← e.ids_of_mem v he ht]
    exact e.responds_ids host h method args v
  refine ⟨responds w, fun spares exist history => ?_⟩
  have ids := table_after spares exist history
  refine ⟨ids, fun h method args ht => ?_⟩
  rw [← ids]
  exact responds _ h method args ht

/-! ## A script that takes notes -/

/-- An engine that registers every text as an id and answers with the ids that it has seen. -/
def scribbling : Engine :=
  ⟨"notes", .empty, some fun _ source t => do
    let ids ← Op.read fun w => (w.table t).keys
    Op.change fun w => w.register t source .null
    return .string (",".intercalate ids)⟩

theorem scribbling_spares (t : TableId) : scribbling.Spares t := by
  intro h source t' w r v hn ht evaluated
  cases evaluated
  refine ⟨?_, World.table_register_of_ne hn⟩
  rw [World.size_tables_register]
  exact ht

/-- A host with that engine only. -/
def notebook : Host := { Host.plain "notes" with engine := fun _ => scribbling }

/-- A script that takes a note when something is clicked. -/
def noteTaker : EventScript := ⟨⟨"Click", [⟨"clicked", .unit⟩]⟩, ⟨0⟩, "clicked", "note", some ⟨0⟩⟩

/-- The notes of the first call are neither in the document nor in the second call, which sees the id
that was registered in between. -/
theorem noteTaker_sees_copy_of_ids :
    let h : Held := ⟨[], [⟨0⟩]⟩
    let w := (World.empty.allocTable .empty).2
    let history : List Happening :=
      [.registered "a" .null, .called h "clicked" [], .registered "b" .null, .called h "opened" []]
    noteTaker.table = some ⟨0⟩ ∧ scribbling.Spares ⟨0⟩ ∧ 0 < w.tables.size ∧
      ((noteTaker.after notebook ⟨0⟩ w history).table ⟨0⟩).keys = ["a", "b"] ∧
      noteTaker.Responds notebook h "clicked" [.null] (noteTaker.after notebook ⟨0⟩ w history)
        (history.foldl Happening.ids .empty) ∧
      ((notebook.call h "clicked" [.null] (.script noteTaker)).runIn
        (noteTaker.after notebook ⟨0⟩ w history)).1.toOption = some (.string "a,b,arguments") := by
  intro h w history
  have exist : 0 < w.tables.size := by decide
  obtain ⟨-, later⟩ := sees_copy_of_ids noteTaker ⟨0⟩ rfl notebook w
  obtain ⟨ids, responds⟩ := later (scribbling_spares _) exist history
  refine ⟨rfl, scribbling_spares _, exist, ?_, ?_, by decide⟩
  · rw [ids]
    rfl
  · exact responds h "clicked" [.null] (List.mem_singleton_self _)

end EventScript

end Bxml
