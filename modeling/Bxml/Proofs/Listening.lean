import Bxml.Listening
import Bxml.Proofs.World.Gathering

/-!
# Calls of listeners

The listeners of a list are called one after the other, and what lasts through the functions and
evaluations of a host lasts through their calls.  The script of an event is evaluated with the ids of
its document, as long as somebody holds them, and with the arguments of the call.

* Closure lemmas, one for each function (`callAdapter`, `callScript`, `call` and so on), say what
  lasts.
* `EventScript.ids` are the ids that a script sees, `Host.call_script_runIn` says that it is
  evaluated with them, and `EventScript.runsWith_ids` that they and the arguments are all that it is
  given.
* `World.Prepares` says what the preparation of a call does to a world: a new list for the
  arguments, a new table, and nothing else.  The tables that there were are left alone
  (`Prepares.table_eq`), which is what `Listening/Copies.lean` carries along a history of calls.
-/

namespace Bxml

open World (Lasting)

variable {R : World → World → Prop} [Lasting R] {host : Host}

/-! ## What lasts -/

namespace Host.Keeps

variable (hh : host.Keeps R)

omit hh in
theorem scriptIds (h : Held) (e : EventScript) (args : List Value) :
    (Host.scriptIds h e args).Keeps R := by
  refine .bind (.read _) fun ids => .bind (.make fun w => Lasting.alloc w _) fun list => ?_
  refine .ite (.bind (.log _ _) fun _ => ?_) ?_
  · exact .make fun w => Lasting.allocTable w _
  · exact .make fun w => Lasting.allocTable w _

include hh

theorem callScript (h : Held) (e : EventScript) (method : String) (args : List Value) :
    (host.callScript h e method args).Keeps R := by
  refine .ite (.pure _) (.bind (scriptIds _ _ _) fun t => .bind (.attempt (hh.eval _ _ _ _)) fun r => ?_)
  cases r with
  | ok v => exact .pure _
  | error x => exact .bind (.log _ _) fun _ => .bind (.log _ _) fun _ => .pure _

theorem callAdapter (h : Held) (a : Adapter) (method : String) (args : List Value) :
    (host.callAdapter h a method args).Keeps R := by
  unfold Host.callAdapter
  dsimp only
  split
  · exact .bind (.mapError _ (hh.invoke _ _ _ _)) fun _ => .pure _
  · refine .ite (.bind (.attempt (hh.invoke _ _ _ _)) fun r => ?_) (.pure _)
    split
    · exact .pure _
    · exact .pure _
    · exact .throw _

theorem call (h : Held) (method : String) (args : List Value) (x : Listener) :
    (host.call h method args x).Keeps R := by
  cases x with
  | constant v => exact .pure v
  | failing text => exact .throw _
  | adapter a => exact hh.callAdapter h a method args
  | script e => exact hh.callScript h e method args

/-- A call of a method that succeeds has called every listener, each in a later world than the call
began in. -/
theorem exists_call_of_fire {h : Held} {list : ListenerList} {method : String} {args answers : List Value}
    {w v : World} (hf : (host.fire h list method args).runIn w = (.ok answers, v)) {x : Listener}
    (hx : x ∈ list.listeners) : ∃ u answer z, R w u ∧ answer ∈ answers ∧
      (host.call (h.keep args) method args x).runIn u = (.ok answer, z) := by
  unfold Host.fire Host.askAll at hf
  generalize list.listeners = l at hf hx
  induction l generalizing w answers with
  | nil => cases hx
  | cons y r ih =>
    rw [List.mapM_cons, Op.bind_runIn_eq_ok] at hf
    obtain ⟨answer, u, hy, hf⟩ := hf
    rw [Op.bind_runIn_eq_ok] at hf
    obtain ⟨others, z, hr, hf⟩ := hf
    cases hf
    rcases List.mem_cons.1 hx with rfl | hx
    · exact ⟨w, answer, u, Lasting.refl w, List.mem_cons_self, hy⟩
    · obtain ⟨u', answer', z', later, known, called⟩ := ih hr hx
      exact ⟨u', answer', z', Lasting.trans ((hh.call _ _ _ _).lasts hy) later,
        List.mem_cons_of_mem _ known, called⟩

end Host.Keeps

/-! ## Scripts of events -/

/-- The ids of its document that an event script sees. -/
def EventScript.ids (e : EventScript) (h : Held) (w : World) : Entries Value :=
  match e.table with
  | some t => if h.tables.contains t then w.table t else .empty
  | none => .empty

theorem EventScript.ids_of_mem {e : EventScript} {h : Held} {t : TableId} (w : World)
    (he : e.table = some t) (ht : t ∈ h.tables) : e.ids h w = w.table t := by
  unfold ids
  rw [he]
  exact if_pos (List.contains_iff_mem.2 ht)

theorem EventScript.ids_of_not_mem {e : EventScript} {h : Held} {t : TableId} (w : World)
    (he : e.table = some t) (ht : t ∉ h.tables) : e.ids h w = .empty := by
  unfold ids
  rw [he]
  exact if_neg fun held => ht (List.contains_iff_mem.1 held)

/-- Evaluates the text of an event script with the ids of a table. -/
def Host.evaluateScript (host : Host) (h : Held) (e : EventScript) (args : List Value) (t : TableId) :
    Op ListenerError Value := do
  let engine := host.engine e.engine
  match ← (engine.eval ((h.keep args).keepTable t) e.script t).attempt with
  | .ok v => return e.interface.answer e.event v
  | .error x =>
    Op.log .error
      s!"{e.interface.name}.{e.event} script failed ({engine.language}): {x.message}"
    Op.log .debug e.script
    return e.interface.defaultResult e.event

/-- Whether the call of an event script evaluates its text with some ids and, unless one of them has
their name, the arguments of the call. -/
def EventScript.RunsWith (e : EventScript) (host : Host) (h : Held) (args : List Value) (w : World)
    (ids : Entries Value) : Prop :=
  ∃ t list u, (host.call h e.event args (.script e)).runIn w =
      (host.evaluateScript h e args t).runIn u ∧
    (∀ id, (u.table t).get? id =
      (ids.get? id).or (if id = argumentsId then some (.object list) else none)) ∧
    u.object list = .ofItems args

/-- Whether a world has, after those of another one, a list of some arguments and a table with some ids
and, unless one of these has its name, the list. -/
structure World.Prepares (w : World) (ids : Entries Value) (args : List Value) (u : World) : Prop where
  objects : u.objects = w.objects.push (.ofItems args)
  tables : ∃ seen, u.tables = w.tables.push seen ∧ seen.toList = ids.toList ++
    if ids.contains argumentsId then [] else [(argumentsId, .object ⟨w.objects.size⟩)]

namespace World.Prepares

variable {w u : World} {ids : Entries Value} {args : List Value} (h : w.Prepares ids args u)

include h

theorem toList_table : (u.table ⟨w.tables.size⟩).toList = ids.toList ++
    if ids.contains argumentsId then [] else [(argumentsId, .object ⟨w.objects.size⟩)] := by
  obtain ⟨seen, tables, all⟩ := h.tables
  rw [← all, World.table, tables]
  simp

theorem get?_table (id : String) : (u.table ⟨w.tables.size⟩).get? id =
    (ids.get? id).or (if id = argumentsId then some (.object ⟨w.objects.size⟩) else none) := by
  have known := Entries.isSome_get? ids argumentsId
  rw [Entries.get?, h.toList_table, List.lookup_append]
  change (ids.get? id).or _ = _
  by_cases hid : id = argumentsId
  · subst hid
    cases hc : ids.contains argumentsId with
    | true =>
      rw [hc] at known
      rw [Option.or_of_isSome known, Option.or_of_isSome known]
    | false => simp
  · cases ids.contains argumentsId <;> simp [List.lookup_cons, beq_false_of_ne hid, hid]

theorem object_list : u.object ⟨w.objects.size⟩ = .ofItems args := by
  rw [World.object, h.objects]
  simp

theorem size_tables : u.tables.size = w.tables.size + 1 := by
  obtain ⟨seen, tables, -⟩ := h.tables
  rw [tables, Array.size_push]

/-- The tables that there were are left alone. -/
theorem table_eq {t : TableId} (ht : t.index < w.tables.size) : u.table t = w.table t := by
  obtain ⟨seen, tables, -⟩ := h.tables
  rw [World.table, tables, World.table]
  simp [Array.getElem?_push, Nat.ne_of_lt ht]

end World.Prepares

/-- The ids that an event script sees are copied into a new table, along with the arguments. -/
theorem Host.scriptIds_runIn (h : Held) (e : EventScript) (args : List Value) (w : World) :
    ∃ u, (Host.scriptIds h e args).runIn w = (.ok ⟨w.tables.size⟩, u) ∧
      w.Prepares (e.ids h w) args u := by
  rcases hr : (Host.scriptIds h e args).runIn w with ⟨r, u⟩
  unfold Host.scriptIds at hr
  rw [Op.bind_runIn_of_ok (Op.read_runIn _ _), Op.bind_runIn_of_ok (Op.make_runIn _ _)] at hr
  change Op.runIn (if (e.ids h w).contains argumentsId then _ else _) _ = _ at hr
  by_cases hc : (e.ids h w).contains argumentsId = true
  · rw [if_pos hc, Op.bind_runIn_of_ok (Op.log_runIn _ _ _)] at hr
    cases hr
    refine ⟨_, rfl, rfl, e.ids h w, rfl, ?_⟩
    rw [if_pos hc, List.append_nil]
  · have new : argumentsId ∉ (e.ids h w).keys := fun known => hc (List.contains_iff_mem.2 known)
    rw [if_neg hc] at hr
    cases hr
    refine ⟨_, rfl, rfl, (e.ids h w).insert argumentsId _, rfl, ?_⟩
    rw [Entries.toList_insert_of_not_mem new, if_neg hc]
    rfl

/-- The script is evaluated when its event is called, with the ids that it sees in a new table. -/
theorem Host.call_script_runIn (host : Host) (h : Held) (e : EventScript) (args : List Value)
    (w : World) : ∃ u, w.Prepares (e.ids h w) args u ∧
      (host.call h e.event args (.script e)).runIn w =
        (host.evaluateScript h e args ⟨w.tables.size⟩).runIn u := by
  have called : host.call h e.event args (.script e) =
      Host.scriptIds h e args >>= host.evaluateScript h e args := by
    unfold Host.call Host.callScript
    dsimp only
    rw [if_neg (by simp)]
    rfl
  obtain ⟨u, prepared, prepares⟩ := Host.scriptIds_runIn h e args w
  exact ⟨u, prepares, by rw [called, Op.bind_runIn_of_ok prepared]⟩

/-- An event script is evaluated with the ids that it sees. -/
theorem EventScript.runsWith_ids (e : EventScript) (host : Host) (h : Held) (args : List Value)
    (w : World) : e.RunsWith host h args w (e.ids h w) := by
  obtain ⟨u, prepares, called⟩ := host.call_script_runIn h e args w
  exact ⟨_, _, u, called, prepares.get?_table, prepares.object_list⟩

end Bxml
