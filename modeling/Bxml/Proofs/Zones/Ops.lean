import Bxml.Proofs.Twins.Changes
import Bxml.Proofs.World.Dictionaries

/-!
# Zones

A zone is a part of a world that operations are confined to: it says which objects may be changed and
which values may be passed around, and what is known of the world.  Every single change that a load
makes stays in a zone if what it is about belongs to it, so all operations do that consist of such
changes.

* `Zone` says what may be changed, what may be passed around and what is known, and `Op.StaysIn`
  that an operation is confined to it.
* There is one lemma for each construct of operations; `Host.StaysIn` asks the same of engines.
* `Host.StaysIn.write` is the one induction, on how often a host passes changes on.
-/

namespace Bxml

namespace Entries

variable {α : Type} {m : Entries α} {P : α → Prop}

/-- Whether something holds for all values. -/
def All (P : α → Prop) (m : Entries α) : Prop := ∀ k a, m.get? k = some a → P a

theorem All.empty : (.empty : Entries α).All P := by
  intro k a h
  cases h

theorem All.insert (h : m.All P) (k : String) {a : α} (ha : P a) : (m.insert k a).All P := by
  intro j b hb
  rw [get?_insert] at hb
  split at hb
  · cases hb
    exact ha
  · exact h j b hb

theorem All.of_mem (h : m.All P) {p : String × α} (hp : p ∈ m.toList) : P p.2 :=
  h p.1 p.2 (get?_of_mem hp)

theorem All.ofList {l : List (String × α)} (h : ∀ p ∈ l, P p.2) : (Entries.ofList l).All P := by
  have more (m : Entries α) (hm : m.All P) : (m.insertAll l).All P := by
    induction l generalizing m with
    | nil => exact hm
    | cons p r ih =>
      rw [List.forall_mem_cons] at h
      exact ih h.2 _ (hm.insert p.1 h.1)
  exact more .empty .empty

end Entries

/-- Whether something holds for the value in a slot, if there is one. -/
def Slot.All (P : Value → Prop) (s : Slot) : Prop := ∀ v, s.value? = some v → P v

/-- Whether something holds for all values in an object. -/
inductive Content.All (P : Value → Prop) : Content → Prop
  | bean {b : Bean} : b.slots.All (Slot.All P) → All P (.bean b)
  | dictionary {d : Dictionary} : d.entries.All P → All P (.dictionary d)
  | list {items : List Value} : (∀ v ∈ items, P v) → All P (.list items)

/-- A part of a world: the worlds it is a part of, the objects in it that may be changed, the values
that may be passed around and the bindings among its objects. -/
structure Zone where
  world : World → Prop
  object : ObjectId → Prop
  value : Value → Prop
  binding : Binding → Prop
  scalar : ∀ {v}, v.object? = none → value v
  emit : ∀ {w}, world w → ∀ e, world (w.emit e)
  exhaust : ∀ {w}, world w → world { w with exhausted := true }
  alloc : ∀ {w}, world w → ∀ {c : Content}, c.All value →
    world (w.alloc ⟨c, []⟩).2 ∧ object (w.alloc ⟨c, []⟩).1 ∧ value (.object (w.alloc ⟨c, []⟩).1)
  allocTable : ∀ {w}, world w → world (w.allocTable .empty).2
  assign : ∀ {w}, world w → ∀ {o v}, object o → value v → ∀ {name x}, w.assign o name v = .ok x →
    world x.world
  append : ∀ {w}, world w → ∀ {o v}, object o → value v → world (w.append o v)
  addListener : ∀ {w}, world w → ∀ {o}, object o → ∀ name x, world (w.addListener o name x)
  subscribe : ∀ {w}, world w → ∀ {b}, binding b → world (w.subscribe b.source b.sourceKey (.binding b))
  /-- Who is told of changes of an object that may be changed belongs to the zone. -/
  subscribers : ∀ {w}, world w → ∀ {o}, object o → ∀ {name b},
    (name, Subscriber.binding b) ∈ (w.object o).subscribers → binding b
  target : ∀ {b}, binding b → object b.target
  source : ∀ {w}, world w → ∀ {b}, binding b → ∀ {name v},
    (w.object b.source).getProperty name = .ok v → value v
  resolve : ∀ {w}, world w → ∀ {t segments v}, w.resolve t segments = .ok v → value v
  putId : ∀ {w}, world w → ∀ {v}, value v → ∀ {t id u}, w.putId t id v = .ok u → world u

/-- Whether an operation stays in a zone, however it ends, and gives only what `P` holds of. -/
def Op.StaysIn {ε α : Type} (Z : Zone) (P : α → Prop) (x : Op ε α) : Prop :=
  ∀ w, Z.world w → Z.world (x.runIn w).2 ∧ ∀ a, (x.runIn w).1 = .ok a → P a

/-- Whether an operation stays in a zone, whatever it gives. -/
abbrev Op.Stays {ε α : Type} (Z : Zone) (x : Op ε α) : Prop := x.StaysIn Z fun _ => True

namespace Op.StaysIn

variable {ε δ α β : Type} {Z : Zone} {P : α → Prop} {Q : β → Prop} {x : Op ε α}

theorem world (hx : x.StaysIn Z P) {w v : World} (hw : Z.world w) {r : Except ε α}
    (h : x.runIn w = (r, v)) : Z.world v := by
  have hv := (hx w hw).1
  rw [h] at hv
  exact hv

theorem of_ok (hx : x.StaysIn Z P) {w v : World} (hw : Z.world w) {a : α}
    (h : x.runIn w = (.ok a, v)) : P a := by
  have ha := (hx w hw).2 a
  rw [h] at ha
  exact ha rfl

theorem mono {P' : α → Prop} (hx : x.StaysIn Z P) (h : ∀ a, P a → P' a) : x.StaysIn Z P' :=
  fun w hw => ⟨(hx w hw).1, fun a ha => h a ((hx w hw).2 a ha)⟩

theorem pure {a : α} (h : P a) : Op.StaysIn Z P (pure a : Op ε α) := by
  refine fun w hw => ⟨hw, ?_⟩
  rintro _ ⟨⟩
  exact h

theorem throw (e : ε) : Op.StaysIn Z P (throw e : Op ε α) := fun _ hw => ⟨hw, nofun⟩

theorem ofExcept {r : Except ε α} (h : ∀ a, r = .ok a → P a) : Op.StaysIn Z P (.ofExcept r) :=
  fun _ hw => ⟨hw, h⟩

theorem ofExceptAny (r : Except ε α) : Op.Stays Z (.ofExcept r) := ofExcept fun _ _ => trivial

theorem read {f : World → α} (h : ∀ w, Z.world w → P (f w)) :
    Op.StaysIn Z P (.read f : Op ε α) := by
  refine fun w hw => ⟨hw, ?_⟩
  rintro _ ⟨⟩
  exact h w hw

theorem readAny (f : World → α) : Op.Stays Z (.read f : Op ε α) := read fun _ _ => trivial

theorem check {f : World → Except ε α} (h : ∀ w a, Z.world w → f w = .ok a → P a) :
    Op.StaysIn Z P (.check f) := fun w hw => ⟨hw, fun a => h w a hw⟩

theorem checkAny (f : World → Except ε α) : Op.Stays Z (.check f) := check fun _ _ _ _ => trivial

theorem change {f : World → World} (h : ∀ w, Z.world w → Z.world (f w)) :
    Op.Stays Z (.change f : Op ε Unit) := fun w hw => ⟨h w hw, fun _ _ => trivial⟩

theorem make {f : World → α × World} (h : ∀ w, Z.world w → P (f w).1 ∧ Z.world (f w).2) :
    Op.StaysIn Z P (.make f : Op ε α) := by
  refine fun w hw => ⟨(h w hw).2, ?_⟩
  rintro _ ⟨⟩
  exact (h w hw).1

theorem update {f : World → Except ε World} (h : ∀ w v, Z.world w → f w = .ok v → Z.world v) :
    Op.Stays Z (.update f) := by
  refine fun w hw => ⟨?_, fun _ _ => trivial⟩
  rw [Op.update_runIn]
  split
  · next hf => exact h w _ hw hf
  · exact hw

theorem emit (e : Event) : Op.Stays Z (.emit e : Op ε Unit) := change fun _ hw => Z.emit hw e

theorem log (level : Level) (text : String) : Op.Stays Z (.log level text : Op ε Unit) :=
  change fun _ hw => Z.emit hw _

theorem typeName (o : ObjectId) : Op.Stays Z (.typeName o : Op ε String) := readAny _

theorem mapError (hx : x.StaysIn Z P) (f : ε → δ) : (x.mapError f).StaysIn Z P := by
  intro w hw
  have h := hx w hw
  rw [Op.mapError_runIn]
  generalize x.runIn w = r at h
  obtain ⟨_ | _, v⟩ := r
  · exact ⟨h.1, nofun⟩
  · refine ⟨h.1, ?_⟩
    rintro _ ⟨⟩
    exact h.2 _ rfl

theorem attempt (hx : x.StaysIn Z P) : (x.attempt : Op δ (Except ε α)).Stays Z :=
  fun w hw => ⟨(hx w hw).1, fun _ _ => trivial⟩

theorem onError (hx : x.StaysIn Z P) {f : ε → World → World}
    (hf : ∀ e w, Z.world w → Z.world (f e w)) : (x.onError f).StaysIn Z P := by
  intro w hw
  have h := hx w hw
  rw [Op.onError_runIn]
  generalize x.runIn w = r at h
  obtain ⟨_ | _, v⟩ := r
  · exact ⟨hf _ _ h.1, nofun⟩
  · exact h

theorem bind {f : α → Op ε β} (hx : x.StaysIn Z P) (hf : ∀ a, P a → (f a).StaysIn Z Q) :
    (x >>= f).StaysIn Z Q := by
  intro w hw
  have h := hx w hw
  rw [Op.bind_runIn]
  generalize x.runIn w = r at h
  obtain ⟨_ | a, v⟩ := r
  · exact ⟨h.1, nofun⟩
  · exact hf a (h.2 a rfl) v h.1

theorem ite {p : Prop} [Decidable p] {y : Op ε α} (hx : p → x.StaysIn Z P)
    (hy : ¬ p → y.StaysIn Z P) : (if p then x else y).StaysIn Z P := by
  split
  · next h => exact hx h
  · next h => exact hy h

theorem forM {f : α → Op ε Unit} {l : List α} (hf : ∀ a ∈ l, (f a).Stays Z) : (l.forM f).Stays Z := by
  induction l with
  | nil => exact pure trivial
  | cons a l ih =>
    rw [List.forall_mem_cons] at hf
    change (f a >>= fun _ => l.forM f).Stays Z
    exact hf.1.bind fun _ _ => ih hf.2

theorem forM_option {f : α → Op ε Unit} {o : Option α} (hf : ∀ a, (f a).Stays Z) :
    (o.forM f).Stays Z := by
  cases o with
  | none => exact pure trivial
  | some a => exact hf a

theorem foldlM {f : β → α → Op ε β} {l : List α} {b : β} (hb : Q b)
    (hf : ∀ b a, Q b → (f b a).StaysIn Z Q) : (l.foldlM f b).StaysIn Z Q := by
  induction l generalizing b with
  | nil => exact pure hb
  | cons a l ih =>
    rw [List.foldlM_cons]
    exact (hf b a hb).bind fun b hb => ih hb

end Op.StaysIn

/-! ## Writes -/

/-- Whether the functions of the engines stay in a zone as long as they are given values of it. -/
structure Host.StaysIn (Z : Zone) (host : Host) : Prop where
  function {e : EngineId} {name : String} {f : ScriptFunction} :
    (host.engine e).functions.get? name = some f → ∀ h args, (∀ v ∈ args, Z.value v) →
      (f h args).StaysIn Z Z.value

/-- Whether writing an object of a zone stays in it. -/
def Write.StaysIn (Z : Zone) (write : Write) : Prop :=
  ∀ h {o} name {v}, Z.object o → Z.value v → (write h o name v).Stays Z

namespace Host.StaysIn

variable {Z : Zone} {host : Host} (hh : host.StaysIn Z)

include hh

theorem mapped (h : Held) (m : Option Mapping) {v : Value} (hv : Z.value v) :
    (host.mapped h m v).StaysIn Z Z.value := by
  unfold Host.mapped
  split
  · refine .mapError ?_ _
    unfold Engine.invoke
    split
    · next hf => exact hh.function hf _ _ (List.forall_mem_singleton.2 hv)
    · exact .throw _
  · exact .pure hv

theorem copyAlong {write : Write} (hw : Write.StaysIn Z write) (h : Held) {b : Binding} (hb : Z.binding b) :
    (host.copyAlong write h b).Stays Z := by
  unfold Host.copyAlong
  refine .bind (.readAny _) fun alive _ => .ite (fun _ => ?_) fun _ => .pure trivial
  refine .bind (.mapError (.check fun w v hw => Z.source hw hb) _) fun v hv => ?_
  refine .bind (hh.mapped _ _ hv) fun v hv => .bind (.readAny _) fun holds _ => ?_
  exact .ite (fun _ => .pure trivial) fun _ => .mapError (hw _ _ (Z.target hb) hv) _

theorem publish {write : Write} (hw : Write.StaysIn Z write) (h : Held) {o : ObjectId} (ho : Z.object o)
    (name : String) (previous : Value) : (host.publish write h o name previous).Stays Z := by
  refine .bind (P := fun l => ∀ s ∈ l, ∀ b, s = .binding b → Z.binding b)
    (.read fun w hw s hs b hb => ?_) fun l hl => .forM fun s hs => ?_
  · obtain ⟨⟨k, s⟩, hp, rfl⟩ := List.mem_map.1 hs
    obtain rfl : s = .binding b := hb
    exact Z.subscribers hw ho (List.mem_of_mem_filter hp)
  · cases s with
    | watcher label => exact .emit _
    | binding b =>
      refine .bind (.attempt (hh.copyAlong hw h (hl _ hs b rfl))) fun r _ => ?_
      cases r with
      | ok _ => exact .pure trivial
      | error e => exact .log _ _

omit hh in
/-- A write stays in a zone if the publication of changes does. -/
theorem writeThen {publish : Held → ObjectId → String → Value → Op PropertyError Unit}
    (hp : ∀ h {o} name v, Z.object o → (publish h o name v).Stays Z) :
    Write.StaysIn Z (writeThen publish) := by
  intro h o name v ho hv w hw
  refine ⟨?_, fun _ _ => trivial⟩
  unfold Op.runIn Host.writeThen
  split
  · exact hw
  · next ha => exact Z.assign hw ho hv ha
  · next ha => exact (hp _ _ _ ho _ (Z.assign hw ho hv ha)).1

/-- However often a change is passed on, it stays in a zone of which the written object is. -/
theorem write (n : Nat) : Write.StaysIn Z (host.write n) := by
  induction n with
  | zero =>
    refine writeThen fun h o name v _ => .change fun w hw => ?_
    split
    · exact hw
    · exact Z.exhaust hw
  | succ n ih => exact writeThen fun h o name v ho => hh.publish ih h ho name v

theorem setProperty : Write.StaysIn Z host.setProperty := hh.write _

end Host.StaysIn

end Bxml
