import Bxml.Propagation

/-!
# What lasts

Operations change a world in a few ways: they write properties, append to lists, add subscribers and
listeners, make objects and tables, and record what happens.  A relation between a world and a later
one is lasting if all of these respect it; then every operation that consists of them does, however
it ends.  An id is registered in one place only, so that this change is not among them.

* `Op.Keeps` says that an operation respects a relation, with one lemma for each construct;
  `Host.Keeps` asks the same of engines.
* `Host.Keeps.writeThen` is one write, and `Host.Keeps.write` follows by induction on how often a
  host passes changes on.
-/

namespace Bxml

/-- A relation between a world and a later one that every change other than the registration of an
id respects. -/
class World.Lasting (R : World → World → Prop) : Prop where
  refl (w : World) : R w w
  trans {u v w : World} : R u v → R v w → R u w
  emit (w : World) (e : Event) : R w (w.emit e)
  exhaust (w : World) : R w { w with exhausted := true }
  alloc (w : World) (x : Object) : R w (w.alloc x).2
  allocTable (w : World) (ids : Entries Value) : R w (w.allocTable ids).2
  assign {w : World} {o : ObjectId} {name : String} {v : Value} {x : World.Written} :
    w.assign o name v = .ok x → R w x.world
  append (w : World) (o : ObjectId) (v : Value) : R w (w.append o v)
  subscribe (w : World) (o : ObjectId) (name : String) (s : Subscriber) : R w (w.subscribe o name s)
  addListener (w : World) (o : ObjectId) (name : String) (l : Listener) :
    R w (w.addListener o name l)

/-- Whether an operation respects a relation between a world and a later one. -/
def Op.Keeps {ε α : Type} (R : World → World → Prop) (x : Op ε α) : Prop :=
  ∀ w, R w (x.runIn w).2

open World (Lasting)

namespace Op.Keeps

variable {ε δ α β : Type} {R : World → World → Prop} {x : Op ε α}

theorem lasts {w v : World} {r : Except ε α} (hx : x.Keeps R) (h : x.runIn w = (r, v)) : R w v := by
  have hv := hx w
  rw [h] at hv
  exact hv

theorem change {f : World → World} (hf : ∀ w, R w (f w)) : Op.Keeps R (.change f : Op ε Unit) := hf

theorem make {f : World → α × World} (hf : ∀ w, R w (f w).2) : Op.Keeps R (.make f : Op ε α) := hf

theorem attempt (hx : x.Keeps R) : (x.attempt : Op δ (Except ε α)).Keeps R := hx

theorem mapError (f : ε → δ) (hx : x.Keeps R) : (x.mapError f).Keeps R := by
  intro w
  have h := hx w
  rw [Op.mapError_runIn]
  cases hr : x.runIn w with
  | mk r v =>
    rw [hr] at h
    cases r <;> exact h

theorem ite {p : Prop} [Decidable p] {y : Op ε α} (hx : x.Keeps R) (hy : y.Keeps R) :
    (if p then x else y).Keeps R := by
  split
  · exact hx
  · exact hy

variable [Lasting R]

theorem pure (a : α) : Op.Keeps R (pure a : Op ε α) := fun w => Lasting.refl w

theorem throw (e : ε) : Op.Keeps R (throw e : Op ε α) := fun w => Lasting.refl w

theorem ofExcept (r : Except ε α) : Op.Keeps R (.ofExcept r) := fun w => Lasting.refl w

theorem read (f : World → α) : Op.Keeps R (.read f : Op ε α) := fun w => Lasting.refl w

theorem check (f : World → Except ε α) : Op.Keeps R (.check f) := fun w => Lasting.refl w

theorem emit (e : Event) : Op.Keeps R (.emit e : Op ε Unit) := fun w => Lasting.emit w e

theorem log (level : Level) (text : String) : Op.Keeps R (.log level text : Op ε Unit) :=
  fun w => Lasting.emit w _

theorem typeName (o : ObjectId) : Op.Keeps R (.typeName o : Op ε String) :=
  fun w => Lasting.refl w

theorem bind {f : α → Op ε β} (hx : x.Keeps R) (hf : ∀ a, (f a).Keeps R) : (x >>= f).Keeps R := by
  intro w
  have h := hx w
  rw [Op.bind_runIn]
  cases hr : x.runIn w with
  | mk r v =>
    rw [hr] at h
    cases r with
    | error e => exact h
    | ok a => exact Lasting.trans h (hf a v)

theorem onError {f : ε → World → World} (hx : x.Keeps R) (hf : ∀ e w, R w (f e w)) :
    (x.onError f).Keeps R := by
  intro w
  have h := hx w
  rw [Op.onError_runIn]
  cases hr : x.runIn w with
  | mk r v =>
    rw [hr] at h
    cases r with
    | error e => exact Lasting.trans h (hf e v)
    | ok a => exact h

theorem forM {f : α → Op ε Unit} {l : List α} (hf : ∀ a, (f a).Keeps R) : (l.forM f).Keeps R := by
  induction l with
  | nil => exact pure ()
  | cons a l ih =>
    change (f a >>= fun _ => l.forM f).Keeps R
    exact (hf a).bind fun _ => ih

theorem forM_option {f : α → Op ε Unit} {o : Option α} (hf : ∀ a, (f a).Keeps R) :
    (o.forM f).Keeps R := by
  cases o with
  | none => exact pure ()
  | some a => exact hf a

theorem foldlM {f : β → α → Op ε β} {l : List α} {b : β} (hf : ∀ b a, (f b a).Keeps R) :
    (l.foldlM f b).Keeps R := by
  induction l generalizing b with
  | nil => exact pure b
  | cons a l ih =>
    rw [List.foldlM_cons]
    exact (hf b a).bind fun _ => ih

end Op.Keeps

/-- Whether what a host provides respects a relation between a world and a later one. -/
structure Host.Keeps (R : World → World → Prop) (host : Host) : Prop where
  function {e : EngineId} {name : String} {f : ScriptFunction} :
    (host.engine e).functions.get? name = some f → ∀ h args, (f h args).Keeps R
  evaluator {e : EngineId} {f : Evaluator} :
    (host.engine e).evaluator = some f → ∀ h source t, (f h source t).Keeps R
  hook (k : HookId) (h : Held) (o : ObjectId) (t : TableId) (u : Option Url) :
    (host.hook k h o t u).Keeps R

namespace Host.Keeps

variable {R : World → World → Prop} [Lasting R] {host : Host} (hh : host.Keeps R)

include hh

theorem invoke (e : EngineId) (name : String) (h : Held) (args : List Value) :
    ((host.engine e).invoke name h args).Keeps R := by
  unfold Engine.invoke
  split
  · next hf => exact hh.function hf _ _
  · exact .throw _

theorem eval (e : EngineId) (h : Held) (source : String) (t : TableId) :
    ((host.engine e).eval h source t).Keeps R := by
  unfold Engine.eval
  split
  · next hf => exact hh.evaluator hf _ _ _
  · exact .throw _

theorem mapped (h : Held) (m : Option Mapping) (v : Value) : (host.mapped h m v).Keeps R := by
  unfold Host.mapped
  split
  · exact .mapError _ (hh.invoke _ _ _ _)
  · exact .pure v

theorem copyAlong {write : Write} (hw : ∀ h o name v, (write h o name v).Keeps R) (h : Held)
    (b : Binding) : (host.copyAlong write h b).Keeps R := by
  unfold Host.copyAlong
  refine .bind (.read _) fun alive => ?_
  refine .ite ?_ (.pure ())
  refine .bind (.mapError _ (.check _)) fun v => .bind (hh.mapped _ _ v) fun v => ?_
  refine .bind (.read _) fun holds => ?_
  exact .ite (.pure ()) (.mapError _ (hw _ _ _ _))

theorem tell {write : Write} (hw : ∀ h o name v, (write h o name v).Keeps R) (h : Held)
    (name : String) (previous : Value) (s : Subscriber) :
    (host.tell write h name previous s).Keeps R := by
  cases s with
  | watcher label => exact .emit _
  | binding b =>
    refine .bind (.attempt (hh.copyAlong hw h b)) fun r => ?_
    cases r with
    | ok _ => exact .pure ()
    | error e => exact .log _ _

omit hh in
/-- A write respects what the publication of a change respects. -/
theorem writeThen {publish : Held → ObjectId → String → Value → Op PropertyError Unit}
    (hp : ∀ h o name v, (publish h o name v).Keeps R) (h : Held) (o : ObjectId) (name : String)
    (v : Value) : (writeThen publish h o name v).Keeps R := by
  intro w
  unfold Op.runIn Host.writeThen
  split
  · exact Lasting.refl w
  · next ha => exact Lasting.assign ha
  · next ha => exact Lasting.trans (Lasting.assign ha) (hp _ _ _ _ _)

theorem write (n : Nat) (h : Held) (o : ObjectId) (name : String) (v : Value) :
    (host.write n h o name v).Keeps R := by
  induction n generalizing h o name v with
  | zero =>
    refine writeThen (fun h o name v => .change fun w => ?_) h o name v
    split
    · exact Lasting.refl w
    · exact Lasting.exhaust w
  | succ n ih =>
    refine writeThen (fun h o name v => ?_) h o name v
    exact .bind (.read _) fun _ => .forM (hh.tell ih h name v)

theorem setProperty (h : Held) (o : ObjectId) (name : String) (v : Value) :
    (host.setProperty h o name v).Keeps R := hh.write _ h o name v

end Host.Keeps

end Bxml
