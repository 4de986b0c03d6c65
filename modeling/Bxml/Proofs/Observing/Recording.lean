import Bxml.Proofs.Load.Nesting
import Bxml.Proofs.Observing.Activity

/-!
# Runs that are written down

A recording does what an operation does and writes down, while it goes on, what happens to
properties and to those who subscribed to them.  The recordings of this module follow the writes of
a host step by step:

* `Recorder.write` is `Host.write`, and notes each change with its audience before the first of them
  is called, and each call before the one who is called does anything.
* `Recorder.serve` is `Host.serve` for a list of writes and subscriptions.
* The functions of script engines are not known here, so that a `Recorder` brings a recording for
  each.  `Recording.Follows` says which ones are admitted: those that are put together of steps that
  change no property, of subscriptions and of recorded writes.

Nothing but a write notes a change and nothing but `Recorder.tell` a call, so the history that a
recording leaves is that of the run itself.  That the recording of a run does to the world what the
run does is part of `Recording.Records` in the next module.
-/

namespace Bxml

/-- A world and what has been written down so far. -/
structure Chronicle where
  world : World
  history : History

/-- An operation that writes down what happens. -/
abbrev Recording (ε α : Type) := ExceptT ε (StateM Chronicle) α

namespace Recording

variable {ε δ α β : Type}

/-- What a recording does to a world and its history. -/
def runIn (x : Recording ε α) (c : Chronicle) : Except ε α × Chronicle := x c

/-- An operation of which nothing is written down. -/
def lift (x : Op ε α) : Recording ε α := fun c =>
  match x c.world with
  | (r, w) => (r, ⟨w, c.history⟩)

/-- Writes something down. -/
def note (y : Occurrence) : Recording ε Unit := fun c => (.ok (), ⟨c.world, c.history ++ [y]⟩)

/-- The same recording with its failures seen as other failures. -/
def mapError (f : ε → δ) (x : Recording ε α) : Recording δ α := fun c =>
  match x c with
  | (.ok a, d) => (.ok a, d)
  | (.error e, d) => (.error (f e), d)

/-- The recording that gives what became of `x`. -/
def attempt (x : Recording ε α) : Recording δ (Except ε α) := fun c =>
  match x c with
  | (r, d) => (.ok r, d)

@[simp] theorem lift_runIn (x : Op ε α) (c : Chronicle) :
    (lift x).runIn c = ((x.runIn c.world).1, ⟨(x.runIn c.world).2, c.history⟩) := rfl

@[simp] theorem note_runIn (y : Occurrence) (c : Chronicle) :
    (note y : Recording ε Unit).runIn c = (.ok (), ⟨c.world, c.history ++ [y]⟩) := rfl

theorem mapError_runIn (f : ε → δ) (x : Recording ε α) (c : Chronicle) :
    (mapError f x).runIn c =
      match x.runIn c with
      | (.ok a, d) => (.ok a, d)
      | (.error e, d) => (.error (f e), d) := rfl

@[simp] theorem attempt_runIn (x : Recording ε α) (c : Chronicle) :
    (attempt x : Recording δ (Except ε α)).runIn c = (.ok (x.runIn c).1, (x.runIn c).2) := rfl

theorem bind_runIn (x : Recording ε α) (f : α → Recording ε β) (c : Chronicle) :
    runIn (x >>= f) c =
      match runIn x c with
      | (.ok a, d) => runIn (f a) d
      | (.error e, d) => (.error e, d) := by
  unfold runIn
  simp only [Bind.bind, ExceptT.bind, ExceptT.mk, StateT.bind, ExceptT.bindCont]
  rcases x c with ⟨_ | _, _⟩ <;> rfl

end Recording

/-- Somebody subscribes to a property. There is nothing to subscribe to where no object is. -/
def Chronicle.subscribe (c : Chronicle) (p : Place) (s : Subscriber) : Chronicle :=
  if p.object.index < c.world.objects.size then
    ⟨c.world.subscribe p.object p.key s, c.history ++ [.subscribed p s]⟩
  else c

theorem Chronicle.world_subscribe (c : Chronicle) (p : Place) (s : Subscriber) :
    (c.subscribe p s).world = c.world.subscribe p.object p.key s := by
  unfold subscribe
  split
  · rfl
  · next ho => exact (World.modify_of_not_lt ho _).symm

theorem Chronicle.leads_subscribe (c : Chronicle) (p : Place) (s : Subscriber) :
    Activity.act.Leads c.world c.history (c.subscribe p s).world (c.subscribe p s).history := by
  unfold subscribe
  split
  · next ho => exact .subscribed s ho (.done _ _)
  · exact .done _ _

/-- A way to write a property and to write down what comes of it. -/
abbrev RecordedWrite := Held → ObjectId → String → Value → Recording PropertyError Unit

/-- A host with a recording for each function of its script engines. -/
structure Recorder where
  host : Host
  function : EngineId → String → Held → List Value → Recording ScriptError Value

namespace Recorder

variable (R : Recorder)

/-- The recorder of a host without functions. -/
def plain (language : String) : Recorder where
  host := .plain language
  function _ name _ _ := throw (.noSuchFunction name)

/-- Calls a function by its name. -/
def invoke (e : EngineId) (name : String) (h : Held) (args : List Value) :
    Recording ScriptError Value :=
  match (R.host.engine e).functions.get? name with
  | some _ => R.function e name (h.keep args) args
  | none => throw (.noSuchFunction name)

/-- The value that a binding passes on for `v`. -/
def mapped (h : Held) (m : Option Mapping) (v : Value) : Recording BindingError Value :=
  match m with
  | some m => (R.invoke m.engine m.function h [v]).mapError .script
  | none => pure v

/-- Copies the value at the source of a binding to its target by means of `write`. -/
def copyAlong (write : RecordedWrite) (h : Held) (b : Binding) : Recording BindingError Unit := do
  if ← .lift (.read fun w => w.isAlive h b.source && w.isAlive h b.target) then
    let h := h.keep [.object b.source, .object b.target]
    let v ← (Recording.lift <| .check fun w =>
      (w.object b.source).getProperty b.sourceKey).mapError .property
    let v ← R.mapped h b.mapping v
    unless ← .lift (.read fun w => (w.object b.target).holds b.targetKey v) do
      (write h b.target b.targetKey v).mapError .property

/-- Tells the `i`-th of the audience of the `k`-th occurrence that a property held `previous`
before. -/
def tell (write : RecordedWrite) (k i : Nat) (h : Held) (name : String) (previous : Value)
    (s : Subscriber) : Recording PropertyError Unit := do
  .note (.told k i s name previous)
  match s with
  | .watcher label => .lift (.emit (.changed label name previous))
  | .binding b =>
    match ← (R.copyAlong write h b).attempt with
    | .ok () => pure ()
    | .error e => .lift (.log .error s!"Failed to propagate binding {b.inspect}: {e.message}")

/-- Tells those left of the audience of the `k`-th occurrence, from the `i`-th on. -/
def tellAll (write : RecordedWrite) (k : Nat) (h : Held) (name : String) (previous : Value) :
    Nat → List Subscriber → Recording PropertyError Unit
  | _, [] => pure ()
  | i, s :: left => do
    R.tell write k i h name previous s
    tellAll write k h name previous (i + 1) left

/-- Tells everybody who subscribed to the named property so far of the `k`-th occurrence. -/
def publish (write : RecordedWrite) (k : Nat) (h : Held) (o : ObjectId) (name : String)
    (previous : Value) : Recording PropertyError Unit := do
  let subscribers ← .lift (.read fun w => w.audience ⟨o, name⟩)
  R.tellAll write k h name previous 0 subscribers

end Recorder

/-- Writes a property. If somebody has to be told, the change is written down, and then `publish` is
run with its place in the history and the value that the property held before. -/
def RecordedWrite.writeThen
    (publish : Nat → Held → ObjectId → String → Value → Recording PropertyError Unit) :
    RecordedWrite := fun h o name v c =>
  match c.world.assign o name v with
  | .error e => (.error e, c)
  | .ok ⟨w, none⟩ => (.ok (), ⟨w, c.history⟩)
  | .ok ⟨w, some previous⟩ =>
    publish c.history.length (h.keep [.object o, v, previous]) o name previous
      ⟨w, c.history ++ [.changed ⟨o, name⟩ previous (w.value ⟨o, name⟩) (w.audience ⟨o, name⟩)]⟩

namespace Recorder

variable (R : Recorder)

/-- Writes a property; changes are passed on at most `n` times in a row. -/
def write : Nat → RecordedWrite
  | 0 => .writeThen fun _ h o name previous => .lift (Host.giveUp h o name previous)
  | n + 1 => .writeThen (R.publish (write n))

/-- Writes a property. -/
def setProperty : RecordedWrite := R.write R.host.nesting

end Recorder

/-! ## Functions of script engines -/

/-- Lets somebody subscribe to a property. -/
def Recording.subscribe {ε : Type} (p : Place) (s : Subscriber) : Recording ε Unit :=
  fun c => (.ok (), c.subscribe p s)

/-- Whether a recording is that of an operation which writes properties, lets others subscribe to
them, and does whatever else changes no property. -/
inductive Recording.Follows : ∀ {ε α : Type}, Recording ε α → Op ε α → Prop
  | rests {ε α : Type} {x : Op ε α} : (∀ w : World, w.Rests (x.runIn w).2) →
    x.Keeps World.StaysExhausted → Follows (.lift x) x
  | subscribe {ε : Type} (p : Place) (s : Subscriber) :
    Follows (.subscribe p s : Recording ε Unit) (.change (·.subscribe p.object p.key s))
  /-- The functions that are told of the write are followed in turn. -/
  | write (R : Recorder) (n : Nat) (h : Held) (p : Place) (a : Value) :
    (∀ {e : EngineId} {name : String} {f : ScriptFunction},
      (R.host.engine e).functions.get? name = some f →
        ∀ h args, Follows (R.function e name h args) (f h args)) →
    Follows (R.write n h p.object p.key a) (R.host.write n h p.object p.key a)
  | bind {ε α β : Type} {x : Recording ε α} {y : Op ε α} {f : α → Recording ε β}
      {g : α → Op ε β} :
    Follows x y → (∀ a, Follows (f a) (g a)) → Follows (x >>= f) (y >>= g)
  | mapError {ε δ α : Type} {x : Recording ε α} {y : Op ε α} (f : ε → δ) :
    Follows x y → Follows (x.mapError f) (y.mapError f)
  | attempt {ε δ α : Type} {x : Recording ε α} {y : Op ε α} :
    Follows x y → Follows (x.attempt : Recording δ (Except ε α)) y.attempt

theorem Recording.Follows.pure {ε α : Type} (a : α) :
    Recording.Follows (Pure.pure a : Recording ε α) (Pure.pure a) :=
  .rests (x := Pure.pure a) (fun w => .refl w) (.pure a)

/-- Whether the recordings of a recorder are those of the functions of its host. -/
def Recorder.IsFaithful (R : Recorder) : Prop :=
  ∀ {e : EngineId} {name : String} {f : ScriptFunction},
    (R.host.engine e).functions.get? name = some f →
      ∀ h args, Recording.Follows (R.function e name h args) (f h args)

theorem Recorder.isFaithful_plain (language : String) : (Recorder.plain language).IsFaithful := by
  intro _ _ _ hf
  cases hf

/-! ## Sequences of writes -/

/-- What is asked of a host from outside. -/
inductive Request
  | write (h : Held) (p : Place) (a : Value)
  | subscribe (p : Place) (s : Subscriber)

/-- Does what is asked for, one after the other; a write that fails stops nothing. -/
def Host.serve (host : Host) : List Request → World → World
  | [], w => w
  | .write h p a :: rest, w => host.serve rest ((host.setProperty h p.object p.key a).runIn w).2
  | .subscribe p s :: rest, w => host.serve rest (w.subscribe p.object p.key s)

/-- Does what is asked for, and writes down what comes of it. -/
def Recorder.serve (R : Recorder) : List Request → Chronicle → Chronicle
  | [], c => c
  | .write h p a :: rest, c => R.serve rest ((R.setProperty h p.object p.key a).runIn c).2
  | .subscribe p s :: rest, c => R.serve rest (c.subscribe p s)

end Bxml
