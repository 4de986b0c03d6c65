import Bxml.Host
import Bxml.Inspect.Basic

/-!
# Writing properties and passing changes on

A write that changes a property tells the subscribers of the property one after the other. A
binding among them copies the value to its target, unless the target holds it already or one of the
two ends is gone, and that write tells subscribers in turn. A binding that fails is reported and
stops nobody else.
-/

namespace Bxml

/-- Why a binding did not copy a value. -/
inductive BindingError
  | property (e : PropertyError)
  | script (e : ScriptError)
deriving DecidableEq, Repr

/-- The wording of a failure of a script. -/
def ScriptError.report (e : ScriptError) : String := s!"Script error: {e.message}"

/-- The wording of a binding error. -/
def BindingError.message : BindingError → String
  | .property e => e.message
  | .script e => e.report

/-- A binding as the log shows it. -/
def Binding.inspect (b : Binding) : String :=
  Inspect.record "Binding" [
    ("source_key", Text.quoted b.sourceKey),
    ("target_key", Text.quoted b.targetKey),
    ("mapping", Inspect.option (b.mapping.map fun m => Text.quoted m.function))]

/-- Whether the named property can be read and holds a value equal to `v`. -/
def Object.holds (x : Object) (name : String) (v : Value) : Bool :=
  match x.getProperty name with
  | .ok u => u == v
  | .error _ => false

/-- A way to write a property. -/
abbrev Write := Held → ObjectId → String → Value → Op PropertyError Unit

namespace Host

/-- The value that a binding passes on for `v`. -/
def mapped (host : Host) (h : Held) (m : Option Mapping) (v : Value) : Op BindingError Value :=
  match m with
  | some m => ((host.engine m.engine).invoke m.function h [v]).mapError .script
  | none => pure v

/-- Copies the value at the source of a binding to its target by means of `write`. -/
def copyAlong (host : Host) (write : Write) (h : Held) (b : Binding) : Op BindingError Unit := do
  if ← Op.read fun w => w.isAlive h b.source && w.isAlive h b.target then
    let h := h.keep [.object b.source, .object b.target]
    let v ← (Op.check fun w => (w.object b.source).getProperty b.sourceKey).mapError .property
    let v ← host.mapped h b.mapping v
    unless ← Op.read fun w => (w.object b.target).holds b.targetKey v do
      (write h b.target b.targetKey v).mapError .property

/-- A binding with two living ends passes on what its mapping function makes of the value at its
source, unless the target holds that already. -/
theorem copyAlong_runIn (host : Host) (write : Write) {h : Held} {b : Binding} {w : World} {v : Value}
    (alive : (w.isAlive h b.source && w.isAlive h b.target) = true)
    (source : (w.object b.source).getProperty b.sourceKey = .ok v) :
    (host.copyAlong write h b).runIn w =
      let held := h.keep [.object b.source, .object b.target]
      match (host.mapped held b.mapping v).runIn w with
      | (.error e, u) => (.error e, u)
      | (.ok v, u) =>
        if (u.object b.target).holds b.targetKey v then (.ok (), u)
        else ((write held b.target b.targetKey v).mapError .property).runIn u := by
  unfold copyAlong
  simp only [Op.bind_runIn, Op.read_runIn, alive, if_true, Op.mapError_runIn, Op.check_runIn, source]
  cases (host.mapped (h.keep [.object b.source, .object b.target]) b.mapping v).runIn w with
  | mk r u =>
    cases r with
    | error => rfl
    | ok v =>
      dsimp only
      cases (u.object b.target).holds b.targetKey v <;> rfl

/-- A binding without a mapping function passes on the value at its source as it is. -/
theorem copyAlong_runIn_of_unmapped (host : Host) (write : Write) {h : Held} {b : Binding} {w : World}
    {v : Value} (unmapped : b.mapping = none)
    (alive : (w.isAlive h b.source && w.isAlive h b.target) = true)
    (source : (w.object b.source).getProperty b.sourceKey = .ok v) :
    (host.copyAlong write h b).runIn w =
      if (w.object b.target).holds b.targetKey v then (.ok (), w)
      else ((write (h.keep [.object b.source, .object b.target]) b.target b.targetKey v).mapError
        .property).runIn w := by
  rw [copyAlong_runIn host write alive source, unmapped]
  rfl

/-- A binding does nothing once one of its ends is gone. -/
theorem copyAlong_runIn_of_gone (host : Host) (write : Write) {h : Held} {b : Binding} {w : World}
    (gone : ¬ (w.isAlive h b.source && w.isAlive h b.target) = true) :
    (host.copyAlong write h b).runIn w = (.ok (), w) := by
  unfold copyAlong
  rw [Op.bind_runIn, Op.read_runIn]
  simp only [gone]
  rfl

/-- Tells one subscriber that a property held `previous` before. -/
def tell (host : Host) (write : Write) (h : Held) (name : String) (previous : Value) :
    Subscriber → Op PropertyError Unit
  | .watcher label => Op.emit (.changed label name previous)
  | .binding b => do
    match ← (host.copyAlong write h b).attempt with
    | .ok () => pure ()
    | .error e => Op.log .error s!"Failed to propagate binding {b.inspect}: {e.message}"

theorem tell_of_ok {host : Host} {write : Write} {h : Held} {b : Binding} {w u : World}
    (hr : (host.copyAlong write h b).runIn w = (.ok (), u)) (name : String) (previous : Value) :
    (host.tell write h name previous (.binding b)).runIn w = (.ok (), u) := by
  unfold tell
  rw [Op.bind_runIn, Op.attempt_runIn, hr]
  rfl

/-- A failure is logged, and nothing else comes of it. -/
theorem tell_of_error {host : Host} {write : Write} {h : Held} {b : Binding} {w u : World}
    {e : BindingError} (hr : (host.copyAlong write h b).runIn w = (.error e, u)) (name : String)
    (previous : Value) :
    (host.tell write h name previous (.binding b)).runIn w =
      (.ok (), u.log .error s!"Failed to propagate binding {b.inspect}: {e.message}") := by
  unfold tell
  rw [Op.bind_runIn, Op.attempt_runIn, hr]
  rfl

/-- Tells everybody who subscribed to the named property so far. -/
def publish (host : Host) (write : Write) (h : Held) (o : ObjectId) (name : String)
    (previous : Value) : Op PropertyError Unit := do
  let subscribers ← Op.read fun w => (w.object o).subscribersOf name
  subscribers.forM (host.tell write h name previous)

/-- Writes a property, and runs `publish` with the value it held before if somebody has to be
told. -/
def writeThen (publish : Held → ObjectId → String → Value → Op PropertyError Unit) : Write :=
  fun h o name v w =>
    match w.assign o name v with
    | .error e => (.error e, w)
    | .ok ⟨w, none⟩ => (.ok (), w)
    | .ok ⟨w, some previous⟩ => publish (h.keep [.object o, v, previous]) o name previous w

/-- Records that a change was not passed on to somebody. -/
def giveUp (_ : Held) (o : ObjectId) (name : String) (_ : Value) : Op PropertyError Unit :=
  Op.change fun w =>
    if ((w.object o).subscribersOf name).isEmpty then w else { w with exhausted := true }

/-- Writes a property; changes are passed on at most `n` times in a row. -/
def write (host : Host) : Nat → Write
  | 0 => writeThen giveUp
  | n + 1 => writeThen (host.publish (host.write n))

/-- Writes a property. -/
def setProperty (host : Host) : Write := host.write host.nesting

/-- A write that is refused does nothing. -/
theorem setProperty_of_refused {host : Host} {w : World} {o : ObjectId} {name : String} {a : Value}
    {e : PropertyError} (h : Held) (hx : w.assign o name a = .error e) :
    (host.setProperty h o name a).runIn w = (.error e, w) := by
  unfold setProperty
  cases host.nesting <;> unfold Op.runIn write writeThen <;> rw [hx]

/-- Stores a value in a dictionary and gives the value it replaced. -/
def put (host : Host) (h : Held) (o : ObjectId) (key : String) (v : Value) :
    Op PropertyError (Option Value) := do
  let previous ← Op.read fun w => (w.object o).dictionary?.bind fun d => d.entries.get? key
  host.setProperty h o key v
  return previous

end Host

end Bxml
