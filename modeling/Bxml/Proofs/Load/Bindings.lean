import Bxml.Load.Binding
import Bxml.Proofs.Load.Steps
import Bxml.Proofs.Propagation

/-!
# The bindings of a document settle

The bindings of a document are applied one after the other, while those before them are installed
already: a copy may change the source of a binding, which passes the change on.  If no two bindings
are for the same place, then whenever one of them has been applied all that are installed are
settled, and so they are after every write from outside, `BindingRun.settled_of_applied`.

* `bind_eq_ok_iff` says what applying one binding does: it gives the value of an id to its target,
  or makes a connection to the object that its path leads to at that moment.
* `BindingRun` is what the result is about, the bindings, the world and the writes that follow;
  `BindingRun.Admissible` are its conditions, on the places that are involved and the values
  written.
* `Scene.Ready` is what the induction over the bindings carries: those applied so far are installed
  and settled (`Rests`, from `Propagation.lean`), and the rest can still be applied.

A binding that is applied later may unsettle one before it, since its target may be the other's
source; the change is passed on, and `Rests.exists_connect` says that all are settled again.
-/

namespace Bxml

namespace PendingBinding

variable (p : PendingBinding)

/-- The place a binding is for. -/
def place : Place := ⟨p.target, p.targetKey⟩

/-- Whether a binding has no mapping function. -/
def Unmapped : Prop := (splitMapping p.expression).1 = none

/-- The segments of the path of a binding. -/
def segments : List String := pathSegments (splitMapping p.expression).2

/-- Whether the path of a binding leads to a property of an object. -/
def isConnection : Bool := p.segments.length ≠ 1

/-- The value that a single id gives to the target of a binding. -/
def idValue? (ids : Entries Value) : Option Value :=
  match p.segments with
  | [id] => ids.get? id
  | _ => none

/-- The connection that a binding makes if it is applied in a world: its source is the object to
which the path leads there. -/
def connection? (w : World) (t : TableId) : Option Binding :=
  if p.isConnection then do
    let key ← p.segments.getLast?
    let v ← (w.resolve t p.segments.dropLast).toOption
    let o ← v.object?
    return ⟨o, key, p.target, p.targetKey, none⟩
  else none

end PendingBinding

/-- The connections that are made when bindings are applied, each in the world in which its turn
comes. -/
def connections (l : Loader) (c : DocumentContext) (h : Held) (language : String) :
    List PendingBinding → World → List Binding
  | [], _ => []
  | p :: r, w =>
    let held := h.keep (r.map fun q => .object q.target)
    (p.connection? w c.table).toList ++
      connections l c h language r ((bind l c held language p).runIn w).2

/-! ## One binding -/

theorem Url.Host.splitOn_ne_nil (sep : Char) (l : List Char) : splitOn sep l ≠ [] := by
  cases l with
  | nil => exact List.cons_ne_nil _ _
  | cons c r =>
    unfold splitOn
    split
    · exact List.cons_ne_nil _ _
    · split <;> exact List.cons_ne_nil _ _

theorem pathSegments_ne_nil (path : String) : pathSegments path ≠ [] := by
  unfold pathSegments
  rw [Ne, List.map_eq_nil_iff]
  exact Url.Host.splitOn_ne_nil _ _

variable {l : Loader} {c : DocumentContext} {h : Held} {language : String} {p : PendingBinding}
  {w v : World}

/-- A single id makes no connection. -/
theorem PendingBinding.connection_eq_none {t : TableId} (h : p.isConnection = false) :
    p.connection? w t = none := by
  unfold connection?
  rw [h]
  rfl

theorem PendingBinding.goal_of_connection {b : Binding} {t : TableId}
    (hb : p.connection? w t = some b) : b.goal = p.place ∧ b.mapping = none := by
  unfold connection? at hb
  split at hb
  · simp only [Option.bind_eq_bind, Option.bind_eq_some_iff] at hb
    obtain ⟨key, -, u, -, o, -, hb⟩ := hb
    cases hb
    exact ⟨rfl, rfl⟩
  · cases hb

/-- A binding makes one connection at most, to the place it is for. -/
theorem PendingBinding.goals_of_connection (t : TableId) :
    ((p.connection? w t).toList.map Binding.goal).Sublist [p.place] := by
  cases hb : p.connection? w t with
  | none => exact List.nil_sublist _
  | some b =>
    rw [Option.toList_some, List.map_singleton, (goal_of_connection hb).1]

theorem orUndefined_eq_ok {α : Type} {path : String} {o : Option α} {a : α} :
    (orUndefined path o).runIn w = (.ok a, v) ↔ o = some a ∧ v = w := by
  cases o <;> simp [orUndefined, eq_comm]

/-- The source of a binding is the object to which its path leads, if that has the property. -/
theorem bindingSource_eq_ok {objectPath : List String} {key path : String} {o : ObjectId} :
    (bindingSource c objectPath key path).runIn w = (.ok o, v) ↔
      w.resolve c.table objectPath = .ok (.object o) ∧ (w.object o).hasProperty key = true ∧
        v = w := by
  unfold bindingSource
  simp only [Op.bind_runIn_eq_ok, Op.mapError_runIn_eq_ok, orUndefined_eq_ok, Op.check_runIn,
    Op.read_runIn, Prod.mk.injEq]
  constructor
  · rintro ⟨a, _, ⟨ha, rfl⟩, o', _, ⟨ho, rfl⟩, readable, _, ⟨hr, rfl⟩, hk, rfl⟩
    cases hr
    split at hk
    · next has =>
      cases hk
      rw [Value.object?_eq_some] at ho
      exact ⟨by rw [ha, ho], has, rfl⟩
    · cases hk
  · rintro ⟨ha, has, rfl⟩
    exact ⟨_, _, ⟨ha, rfl⟩, o, _, ⟨rfl, rfl⟩, true, _, ⟨by rw [has], rfl⟩, rfl, rfl⟩

theorem resolve_singleton {t : TableId} {id : String} {a : Value} :
    w.resolve t [id] = .ok a ↔ (w.table t).get? id = some a := by
  unfold World.resolve World.resolveIn World.follow
  cases h : (w.table t).get? id <;> simp [h]

theorem bindId_eq_ok {segments : List String} :
    (bindId l c h p none segments).runIn w = (.ok (), v) ↔
      ∃ a, w.resolve c.table segments = .ok a ∧
        (l.host.setProperty h p.target p.targetKey a).runIn w = (.ok (), v) := by
  unfold bindId
  simp only [Op.bind_runIn_eq_ok, Op.mapError_runIn_eq_ok, Op.check_runIn, Host.mapped,
    Op.pure_runIn, Prod.mk.injEq]
  constructor
  · rintro ⟨a, _, ⟨ha, rfl⟩, _, _, ⟨hv, rfl⟩, hr⟩
    cases hv
    exact ⟨a, ha, hr⟩
  · rintro ⟨a, ha, hr⟩
    exact ⟨a, w, ⟨ha, rfl⟩, a, w, ⟨rfl, rfl⟩, hr⟩

theorem bindProperty_eq_ok {front : List String} {key path : String} :
    (bindProperty l c h p none front key path).runIn w = (.ok (), v) ↔
      ∃ o, w.resolve c.table front = .ok (.object o) ∧ (w.object o).hasProperty key = true ∧
        (connect l (h.keep [.object o]) ⟨o, key, p.target, p.targetKey, none⟩ path).runIn w =
          (.ok (), v) := by
  unfold bindProperty
  simp only [Op.bind_runIn_eq_ok, bindingSource_eq_ok]
  constructor
  · rintro ⟨o, _, ⟨ho, has, rfl⟩, hr⟩
    exact ⟨o, ho, has, hr⟩
  · rintro ⟨o, ho, has, hr⟩
    exact ⟨o, w, ⟨ho, has, rfl⟩, hr⟩

/-- How a binding without a mapping function is applied depends on the number of its segments. -/
theorem bind_eq_ok_of_segments (hm : p.Unmapped) {front : List String} {key : String}
    (hs : p.segments = front ++ [key]) : (bind l c h language p).runIn w = (.ok (), v) ↔
      (splitMapping p.expression).2.isEmpty = false ∧
        (if front = [] then bindId l c (h.keep [.object p.target]) p none [key]
          else bindProperty l c (h.keep [.object p.target]) p none front key
            (splitMapping p.expression).2).runIn w = (.ok (), v) := by
  unfold PendingBinding.Unmapped at hm
  have segments : pathSegments (splitMapping p.expression).2 = front ++ [key] := hs
  have one : (front ++ [key]).length = 1 ↔ front = [] := by
    rw [List.length_append, List.length_singleton, Nat.add_eq_right, List.length_eq_zero_iff]
  unfold bind mappingNamed
  simp only [Op.bind_runIn_eq_ok, require_eq_ok, hm, Op.pure_runIn, Prod.mk.injEq, segments,
    List.getLast?_concat, List.dropLast_concat, one, Bool.not_eq_true']
  constructor
  · rintro ⟨_, _, ⟨he, rfl⟩, _, _, ⟨hmap, rfl⟩, hr⟩
    cases hmap
    refine ⟨he, ?_⟩
    split_ifs at hr ⊢ with hf
    · rwa [hf] at hr
    · exact hr
  · rintro ⟨he, hr⟩
    refine ⟨(), w, ⟨he, rfl⟩, none, w, ⟨rfl, rfl⟩, ?_⟩
    split_ifs at hr ⊢ with hf
    · rwa [hf]
    · exact hr

/-- A binding without a mapping function gives the value of an id to its target, or connects its
target to a property of the object to which the segments before the last one lead. -/
theorem bind_eq_ok_iff (hm : p.Unmapped) : (bind l c h language p).runIn w = (.ok (), v) ↔
    (splitMapping p.expression).2.isEmpty = false ∧
      ((∃ id a, p.segments = [id] ∧ (w.table c.table).get? id = some a ∧
        (l.host.setProperty (h.keep [.object p.target]) p.target p.targetKey a).runIn w =
          (.ok (), v)) ∨
      ∃ front key o, p.segments = front ++ [key] ∧ front ≠ [] ∧
        w.resolve c.table front = .ok (.object o) ∧ (w.object o).hasProperty key = true ∧
        (connect l ((h.keep [.object p.target]).keep [.object o])
          ⟨o, key, p.target, p.targetKey, none⟩ (splitMapping p.expression).2).runIn w =
            (.ok (), v)) := by
  obtain ⟨front, key, hs⟩ : ∃ front key, p.segments = front ++ [key] :=
    (List.eq_nil_or_concat' _).resolve_left (pathSegments_ne_nil _)
  rw [bind_eq_ok_of_segments hm hs, hs]
  refine and_congr_right fun _ => ?_
  by_cases hf : front = []
  · subst hf
    rw [if_pos rfl, bindId_eq_ok]
    constructor
    · rintro ⟨a, ha, hr⟩
      exact .inl ⟨key, a, rfl, resolve_singleton.1 ha, hr⟩
    · rintro (⟨_, a, ⟨⟩, ha, hr⟩ | ⟨front, _, _, hs, hf, -⟩)
      · exact ⟨a, resolve_singleton.2 ha, hr⟩
      · exact absurd (List.append_inj_left' hs rfl).symm hf
  · rw [if_neg hf, bindProperty_eq_ok]
    constructor
    · rintro ⟨o, ho, has, hr⟩
      exact .inr ⟨front, key, o, rfl, hf, ho, has, hr⟩
    · rintro (⟨_, a, hs, -, -⟩ | ⟨_, _, o, hs, -, ho, has, hr⟩)
      · exact absurd (List.append_inj_left' (hs.trans (List.nil_append _).symm) rfl) hf
      · obtain ⟨rfl, hk⟩ := List.append_inj' hs rfl
        cases hk
        exact ⟨o, ho, has, hr⟩

/-- A binding without a mapping function gives the value of an id to its target, or makes a
connection. -/
theorem bind_eq_ok (hm : p.Unmapped) (hr : (bind l c h language p).runIn w = (.ok (), v)) :
    (∃ a, p.isConnection = false ∧ p.idValue? (w.table c.table) = some a ∧
      (l.host.setProperty (h.keep [.object p.target]) p.target p.targetKey a).runIn w =
        (.ok (), v)) ∨
    (∃ b path, p.isConnection = true ∧ p.connection? w c.table = some b ∧
      (connect l ((h.keep [.object p.target]).keep [.object b.source]) b path).runIn w =
        (.ok (), v)) := by
  rcases ((bind_eq_ok_iff hm).1 hr).2 with ⟨id, a, hs, ha, hr⟩ | ⟨front, key, o, hs, hf, ho, -, hr⟩
  · refine .inl ⟨a, by simp [PendingBinding.isConnection, hs], ?_, hr⟩
    unfold PendingBinding.idValue?
    rw [hs]
    exact ha
  · have isConnection : p.isConnection = true := by
      simp [PendingBinding.isConnection, hs, List.length_eq_zero_iff, hf]
    refine .inr ⟨_, _, isConnection, ?_, hr⟩
    unfold PendingBinding.connection?
    rw [if_pos isConnection, hs, List.getLast?_concat, List.dropLast_concat, ho]
    rfl

/-! ## Bindings within a scene -/

/-- Whether the bindings `ps` can be applied in a world of a scene in which the bindings `bs` are
installed and settled. -/
structure Scene.Ready (S : Scene) (l : Loader) (c : DocumentContext) (h : Held) (language : String)
    (bs : List Binding) (ps : List PendingBinding) (w : World) : Prop where
  rests : S.Rests bs w
  copies : ∀ b ∈ bs ++ connections l c h language ps w, S.Copies b
  nodup : (bs.map Binding.goal ++ ps.map PendingBinding.place).Nodup
  nesting : bs.length + ps.length < l.host.nesting
  unmapped : ∀ p ∈ ps, p.Unmapped
  places : ∀ p ∈ ps, S.places p.place
  ids : ∀ p ∈ ps, ∀ a, p.idValue? (S.start.table c.table) = some a →
    a.isNumberOrOther = true ∧ ∀ v, S.may v p.place a

namespace Scene

variable {S : Scene} {bs : List Binding} {ps : List PendingBinding} {b : Binding}

/-- A connection is settled once it is made, and the bindings before it stay settled. -/
theorem Rests.exists_connect (hw : S.Rests bs w) (N : S.Network bs) (hn : bs.length < l.host.nesting)
    (hb : S.Copies b) (hh : S.core.Within h) (hg : ∀ c ∈ bs, c.goal ≠ b.goal) (path : String) :
    ∃ v, (connect l h b path).runIn w = (.ok (), v) ∧ S.Rests (bs ++ [b]) v := by
  obtain ⟨u, hu, rests, settled⟩ := hw.exists_copyAlong l.host N hn hb hh hg
  have copied : (l.host.copyAlong l.host.setProperty h b).runIn w = (.ok (), u) := hu
  have publishes : (u.object b.source).publishes = true :=
    World.publishes_of_takesAny (rests.takesAny _ hb.origin)
  let text := s!"Bound {u.typeName b.source}.{b.sourceKey} to {u.typeName b.target}.{b.targetKey}"
  have run : (connect l h b path).runIn w =
      (.ok (), (u.log .debug text).subscribe b.source b.sourceKey (.binding b)) := by
    unfold connect
    rw [Op.bind_runIn_of_ok (Op.mapError_runIn_eq_ok.2 copied)]
    simp only [Op.bind_runIn, Op.typeName_runIn, Op.read_runIn, publishes, if_true, Op.log_runIn,
      Op.change_runIn]
    rfl
  exact ⟨_, run, (rests.emit _).subscribe N hb settled⟩

/-- The value of an id does not depend on the steps in between. -/
theorem Holds.table (hw : S.Holds bs w) (t : TableId) : w.table t = S.start.table t := by
  unfold World.table
  rw [(World.Reaches.sameFrame hw.reached).tables]

namespace Ready

variable (hw : S.Ready l c h language bs (p :: ps) w)

include hw

theorem network : S.Network bs where
  copies b hb := hw.copies b (List.mem_append_left _ hb)
  nodup := (List.nodup_append.1 hw.nodup).1

theorem goal_ne_place (hb : b ∈ bs) : b.goal ≠ p.place :=
  (List.nodup_append.1 hw.nodup).2.2 _ (List.mem_map_of_mem hb) _ List.mem_cons_self

/-- Once a binding is applied, it is settled with all before it. -/
theorem rests_of_bind {held : Held} (hh : S.core.Within held)
    (hr : (bind l c held language p).runIn w = (.ok (), v)) :
    S.Rests (bs ++ (p.connection? w c.table).toList) v := by
  have nesting : bs.length < l.host.nesting := Nat.lt_of_le_of_lt (Nat.le_add_right _ _) hw.nesting
  have place := hw.places p List.mem_cons_self
  rcases bind_eq_ok (hw.unmapped p List.mem_cons_self) hr with
    ⟨a, hk, ha, run⟩ | ⟨b, path, -, hb, run⟩
  · rw [hw.rests.table] at ha
    obtain ⟨number, may⟩ := hw.ids p List.mem_cons_self a ha
    obtain ⟨u, hu, rests⟩ := hw.rests.exists_write l.host hw.network nesting
      (hh.keep [.object p.target]) place (may w) number fun b => hw.goal_ne_place
    cases run.symm.trans hu
    rw [PendingBinding.connection_eq_none hk, Option.toList_none, List.append_nil]
    exact rests
  · obtain ⟨goal, -⟩ := PendingBinding.goal_of_connection hb
    have copies : S.Copies b := hw.copies b (by simp [connections, hb])
    obtain ⟨u, hu, rests⟩ := hw.rests.exists_connect hw.network nesting copies
      ((hh.keep [.object p.target]).keep [.object b.source])
      (fun c hc => by rw [goal]; exact hw.goal_ne_place hc) path
    cases run.symm.trans hu
    rwa [hb]

/-- When one binding has been applied, the others can be. -/
theorem step (hh : S.core.Within h)
    (hr : (bind l c (h.keep (ps.map fun q => .object q.target)) language p).runIn w = (.ok (), v)) :
    S.Ready l c h language (bs ++ (p.connection? w c.table).toList) ps v where
  rests := hw.rests_of_bind (hh.keep _) hr
  copies := by
    have copies := hw.copies
    rwa [connections, hr, ← List.append_assoc] at copies
  nodup := by
    have goals := PendingBinding.goals_of_connection (p := p) (w := w) c.table
    have sub := (List.Sublist.refl (bs.map Binding.goal)).append
      (goals.append_right (ps.map PendingBinding.place))
    rw [List.map_append, List.append_assoc]
    exact hw.nodup.sublist sub
  nesting := by
    have goals := (PendingBinding.goals_of_connection (p := p) (w := w) c.table).length_le
    have nesting := hw.nesting
    rw [List.length_map] at goals
    rw [List.length_append]
    simp only [List.length_cons, List.length_nil] at goals nesting ⊢
    omega
  unmapped q hq := hw.unmapped q (List.mem_cons_of_mem p hq)
  places q hq := hw.places q (List.mem_cons_of_mem p hq)
  ids q hq := hw.ids q (List.mem_cons_of_mem p hq)

end Ready

/-- When all bindings have been applied, they are settled. -/
theorem Ready.rests_of_applyBindings (hw : S.Ready l c h language bs ps w) (hh : S.core.Within h)
    (hr : (applyBindings l c h language ps).runIn w = (.ok (), v)) :
    S.Rests (bs ++ connections l c h language ps w) v := by
  induction ps generalizing bs w with
  | nil =>
    cases hr
    rw [connections, List.append_nil]
    exact hw.rests
  | cons p ps ih =>
    obtain ⟨_, u, hb, rest⟩ := Op.bind_runIn_eq_ok.1 hr
    rw [connections, hb, ← List.append_assoc]
    exact ih (hw.step hh hb) rest

end Scene

/-- A connection leads to the place that one of the bindings is for. -/
theorem goal_of_mem_connections {ps : List PendingBinding} {b : Binding}
    (hb : b ∈ connections l c h language ps w) :
    b.mapping = none ∧ ∃ p ∈ ps, b.goal = p.place := by
  induction ps generalizing w with
  | nil => cases hb
  | cons p ps ih =>
    rcases List.mem_append.1 hb with hb | hb
    · obtain ⟨goal, unmapped⟩ := PendingBinding.goal_of_connection (Option.mem_toList.1 hb)
      exact ⟨unmapped, p, List.mem_cons_self, goal⟩
    · obtain ⟨unmapped, q, hq, goal⟩ := ih hb
      exact ⟨unmapped, q, List.mem_cons_of_mem p hq, goal⟩

/-- Once bindings without mapping functions are applied, there is a connection for each of them
whose path leads to a property. -/
theorem goals_of_connections {ps : List PendingBinding} (hm : ∀ p ∈ ps, p.Unmapped)
    (hr : (applyBindings l c h language ps).runIn w = (.ok (), v)) :
    (connections l c h language ps w).map Binding.goal =
      (ps.filter (·.isConnection)).map PendingBinding.place := by
  induction ps generalizing w with
  | nil => rfl
  | cons p ps ih =>
    obtain ⟨_, u, hb, rest⟩ := Op.bind_runIn_eq_ok.1 hr
    rw [connections, hb, List.map_append, ih (fun q hq => hm q (List.mem_cons_of_mem p hq)) rest]
    rcases bind_eq_ok (hm p List.mem_cons_self) hb with ⟨a, hk, -, -⟩ | ⟨b, path, hk, hb, -⟩
    · rw [PendingBinding.connection_eq_none hk, List.filter_cons_of_neg (by simp [hk])]
      rfl
    · rw [hb, List.filter_cons_of_pos hk, List.map_cons,
        ← (PendingBinding.goal_of_connection hb).1]
      rfl

/-! ## Bindings and writes from outside -/

/-- A write from outside, with what is held meanwhile. -/
structure ExternalWrite where
  held : Held
  place : Place
  value : Value

/-- What a write from outside does. -/
def ExternalWrite.run (x : ExternalWrite) (host : Host) : Op PropertyError Unit :=
  host.setProperty x.held x.place.object x.place.key x.value

/-- Bindings that are applied in a world, and the writes from outside that follow. -/
structure BindingRun where
  loader : Loader
  context : DocumentContext
  held : Held
  language : String
  pending : List PendingBinding
  start : World
  writes : List ExternalWrite
  /-- What is held all the time. -/
  core : Held

namespace BindingRun

variable (R : BindingRun)

/-- What becomes of the bindings. -/
def applied : Except LoadError Unit × World :=
  (applyBindings R.loader R.context R.held R.language R.pending).runIn R.start

/-- The connections that the bindings make. -/
def connections : List Binding :=
  Bxml.connections R.loader R.context R.held R.language R.pending R.start

/-- What becomes of the first `n` writes after that. -/
def written (n : Nat) : Except PropertyError Unit × World :=
  ((R.writes.take n).forM fun x => x.run R.loader.host).runIn R.applied.2

/-- The places that are read and written. -/
inductive Involved : Place → Prop
  | target {p : PendingBinding} : p ∈ R.pending → Involved p.place
  | source {b : Binding} : b ∈ R.connections → Involved b.origin
  | write {x : ExternalWrite} : x ∈ R.writes → Involved x.place

/-- What bindings and writes may write. -/
inductive May (v : World) : Place → Value → Prop
  | copy {b : Binding} : b ∈ R.connections → May v b.goal (v.value b.origin)
  | id {p : PendingBinding} {a : Value} : p ∈ R.pending →
    p.idValue? (R.start.table R.context.table) = some a → May v p.place a
  | write {x : ExternalWrite} : x ∈ R.writes → May v x.place x.value

/-- Whether the bindings have no mapping functions and different targets, all places involved take
any value and nobody has subscribed to their objects, which stay alive, and there is no NaN. -/
structure Admissible : Prop where
  unmapped : ∀ p ∈ R.pending, p.Unmapped
  nodup : (R.pending.map PendingBinding.place).Nodup
  /-- A change may be passed on more often than there are bindings. -/
  nesting : R.pending.length < R.loader.host.nesting
  held : R.core.Within R.held
  heldMeanwhile : ∀ x ∈ R.writes, R.core.Within x.held
  outside : ∀ x ∈ R.writes, ∀ b ∈ R.connections, b.goal ≠ x.place
  takesAny : ∀ p, R.Involved p → R.start.TakesAny p
  unobserved : ∀ p, R.Involved p → (R.start.object p.object).subscribers = []
  number : ∀ p, R.Involved p → (R.start.value p).isNumberOrOther = true
  idNumber : ∀ p ∈ R.pending, ∀ a, p.idValue? (R.start.table R.context.table) = some a →
    a.isNumberOrOther = true
  writeNumber : ∀ x ∈ R.writes, x.value.isNumberOrOther = true
  /-- The objects stay alive as long as nothing else is written. -/
  alive : ∀ {v p}, World.Reaches R.May R.start v → R.Involved p →
    v.isAlive R.core p.object = true

namespace Admissible

variable {R} (hR : R.Admissible)

include hR

/-- The places involved as a scene. -/
def scene : Scene where
  start := R.start
  core := R.core
  places := R.Involved
  may := R.May
  alive := hR.alive

theorem copies {b : Binding} (hb : b ∈ R.connections) : hR.scene.Copies b := by
  obtain ⟨unmapped, p, hp, goal⟩ := goal_of_mem_connections hb
  refine ⟨unmapped, .source hb, ?_, fun v => .copy hb⟩
  rw [goal]
  exact .target hp

theorem ready : hR.scene.Ready R.loader R.context R.held R.language [] R.pending R.start where
  rests := {
    reached := .refl
    takesAny := hR.takesAny
    number := hR.number
    subscribers := hR.unobserved
    settled := List.forall_mem_nil _ }
  copies b hb := hR.copies hb
  nodup := hR.nodup
  nesting := by simpa using hR.nesting
  unmapped := hR.unmapped
  places p hp := .target hp
  ids p hp a ha := ⟨hR.idNumber p hp a ha, fun v => .id hp ha⟩

theorem network (h : R.applied.1 = .ok ()) : hR.scene.Network R.connections where
  copies b := hR.copies
  nodup := by
    have goals := goals_of_connections hR.unmapped (Prod.ext h rfl)
    unfold connections
    rw [goals]
    exact hR.nodup.sublist (List.filter_sublist.map _)

theorem length_connections_le (h : R.applied.1 = .ok ()) :
    R.connections.length ≤ R.pending.length := by
  have goals := congrArg List.length (goals_of_connections hR.unmapped (Prod.ext h rfl))
  rw [List.length_map, List.length_map] at goals
  exact Nat.le_trans (Nat.le_of_eq goals) (List.length_filter_le _ _)

/-- Writes from outside leave the bindings settled. -/
theorem exists_writes (h : R.applied.1 = .ok ()) {ws : List ExternalWrite} (hws : ws ⊆ R.writes)
    {w : World} (hw : hR.scene.Rests R.connections w) :
    ∃ v, (ws.forM fun x => x.run R.loader.host).runIn w = (.ok (), v) ∧
      hR.scene.Rests R.connections v := by
  induction ws generalizing w with
  | nil => exact ⟨w, rfl, hw⟩
  | cons x ws ih =>
    have hx : x ∈ R.writes := hws List.mem_cons_self
    have nesting := Nat.lt_of_le_of_lt (hR.length_connections_le h) hR.nesting
    obtain ⟨u, hu, rests⟩ := hw.exists_write R.loader.host (hR.network h) nesting
      (hR.heldMeanwhile x hx) (.write hx) (.write hx) (hR.writeNumber x hx) (hR.outside x hx)
    obtain ⟨v, hv, rests⟩ := ih (fun y hy => hws (List.mem_cons_of_mem x hy)) rests
    have run : (x.run R.loader.host).runIn w = (.ok (), u) := hu
    refine ⟨v, ?_, rests⟩
    rw [Op.forM_cons_runIn_of_ok (f := fun x : ExternalWrite => x.run R.loader.host) run]
    exact hv

theorem rests_of_written (h : R.applied.1 = .ok ()) (n : Nat) :
    (R.written n).1 = .ok () ∧ hR.scene.Rests R.connections (R.written n).2 := by
  have applied := hR.ready.rests_of_applyBindings hR.held (Prod.ext h rfl)
  obtain ⟨v, hv, rests⟩ := hR.exists_writes h (List.take_subset n R.writes) applied
  unfold written
  rw [BindingRun.applied, hv]
  exact ⟨rfl, rests⟩

end Admissible

/-- Once the bindings are applied there is a connection for each of them whose path leads to a
property, and its target holds the value of its source, after every further write too. No change is
passed on more often than the host allows. -/
theorem settled_of_applied (R : BindingRun) (hR : R.Admissible) (h : R.applied.1 = .ok ()) :
    R.connections.map Binding.goal =
      (R.pending.filter (·.isConnection)).map PendingBinding.place ∧
    ∀ n, (R.written n).1 = .ok () ∧ (R.written n).2.exhausted = R.start.exhausted ∧
      ∀ b ∈ R.connections, b.Settled (R.written n).2 := by
  refine ⟨goals_of_connections hR.unmapped (Prod.ext h rfl), fun n => ?_⟩
  obtain ⟨ok, rests⟩ := hR.rests_of_written h n
  exact ⟨ok, (World.Reaches.sameFrame rests.reached).exhausted, rests.settled⟩

/-- Two bindings that follow each other, of which the first is applied before its source is bound,
and an id; then the source of the second is written. -/
theorem settled_of_chain :
    let dictionary (entries : Entries Value) : Object := ⟨.dictionary ⟨"A", entries, none⟩, []⟩
    let start : World := {
      World.empty with
      objects := #[dictionary (.ofList [("x", .int 1)]), dictionary (.ofList [("x", .null)]),
        dictionary .empty]
      tables := #[.ofList [("a", .object ⟨0⟩), ("b", .object ⟨1⟩), ("n", .string "n")]] }
    let held : Held := ⟨[.object ⟨0⟩, .object ⟨1⟩, .object ⟨2⟩], []⟩
    let R : BindingRun := {
      loader := .plain
      context := ⟨none, ⟨0⟩, none, 0, held⟩
      held := held
      language := defaultLanguage
      pending := [⟨⟨2⟩, "x", "b.x", ⟨1, 1⟩⟩, ⟨⟨1⟩, "x", "a.x", ⟨1, 1⟩⟩, ⟨⟨2⟩, "n", "n", ⟨1, 1⟩⟩]
      start := start
      writes := [⟨held, ⟨⟨0⟩, "x"⟩, .int 2⟩]
      core := held }
    R.Admissible ∧ R.applied.1 = .ok () ∧
      (⟨⟨1⟩, "x", ⟨2⟩, "x", none⟩ : Binding).Settled (R.written 1).2 := by
  intro dictionary start held R
  have connections : R.connections =
      [⟨⟨1⟩, "x", ⟨2⟩, "x", none⟩, ⟨⟨0⟩, "x", ⟨1⟩, "x", none⟩] := by decide +kernel
  have involved : ∀ p, R.Involved p →
      p ∈ [(⟨⟨2⟩, "x"⟩ : Place), ⟨⟨1⟩, "x"⟩, ⟨⟨2⟩, "n"⟩, ⟨⟨0⟩, "x"⟩] := by
    rintro _ (hp | hb | hx)
    · simp only [R, List.mem_cons, List.not_mem_nil, or_false] at hp
      rcases hp with rfl | rfl | rfl <;> decide
    · simp only [connections, List.mem_cons, List.not_mem_nil, or_false] at hb
      rcases hb with rfl | rfl <;> decide
    · rw [List.mem_singleton.1 hx]
      decide
  have hR : R.Admissible := {
    unmapped := by
      unfold PendingBinding.Unmapped
      decide +kernel
    nodup := by decide
    nesting := by decide
    held := .refl _
    heldMeanwhile := by
      intro x hx
      rw [List.mem_singleton.1 hx]
      exact .refl _
    outside := by
      rw [connections]
      decide
    takesAny := by
      intro p hp
      have hp := involved p hp
      simp only [List.mem_cons, List.not_mem_nil, or_false] at hp
      rcases hp with rfl | rfl | rfl | rfl <;> trivial
    unobserved := by
      intro p hp
      have hp := involved p hp
      simp only [List.mem_cons, List.not_mem_nil, or_false] at hp
      rcases hp with rfl | rfl | rfl | rfl <;> rfl
    number := by
      have number : ∀ p ∈ [(⟨⟨2⟩, "x"⟩ : Place), ⟨⟨1⟩, "x"⟩, ⟨⟨2⟩, "n"⟩, ⟨⟨0⟩, "x"⟩],
          (R.start.value p).isNumberOrOther = true := by decide +kernel
      exact fun p hp => number p (involved p hp)
    idNumber := by
      have number : ∀ p ∈ R.pending, (p.idValue? (R.start.table R.context.table)).all
          (·.isNumberOrOther) = true := by decide +kernel
      intro p hp a ha
      have h := number p hp
      rwa [ha] at h
    writeNumber := by decide
    alive := by
      intro v p hv hp
      have size := (World.Reaches.sameFrame hv).size
      have hp := involved p hp
      simp only [List.mem_cons, List.not_mem_nil, or_false] at hp
      rcases hp with rfl | rfl | rfl | rfl <;>
        exact World.isAlive_of_held (by simp [R, held]) (by rw [size]; decide) }
  have ok : R.applied.1 = .ok () := by
    have h : R.applied.1.isOk = true := by decide +kernel
    cases ha : R.applied.1 with
    | ok _ => rfl
    | error e =>
      rw [ha] at h
      cases h
  obtain ⟨-, settled⟩ := settled_of_applied R hR ok
  refine ⟨hR, ok, (settled 1).2.2 _ ?_⟩
  rw [connections]
  exact List.mem_cons_self

end BindingRun

end Bxml
