import Bxml.World.Object

/-!
# The world of a load

All objects and tables of ids that exist, and the trace of what has happened. Objects are referred
to by identity, so that two values can share one.
-/

namespace Bxml

/-- How much a log record matters. -/
inductive Level
  | error
  | warn
  | info
  | debug
  | trace
deriving DecidableEq, Repr

/-- The word for a level. -/
def Level.text : Level → String
  | .error => "error"
  | .warn => "warn"
  | .info => "info"
  | .debug => "debug"
  | .trace => "trace"

/-- The level of a word. -/
def Level.ofText? (s : String) : Option Level :=
  [Level.error, .warn, .info, .debug, .trace].find? (·.text == s)

/-- How far down a level is; the gravest is the lowest. -/
def Level.rank : Level → Nat
  | .error => 0
  | .warn => 1
  | .info => 2
  | .debug => 3
  | .trace => 4

/-- Something that happened. Log records and changes come from the library, the others from the
collaborators that a host provides. -/
inductive Event
  | log (level : Level) (text : String)
  | changed (label key : String) (previous : Value)
  | evaluated (language source : String) (ids : List String)
  | called (function : String) (args : List Value)
  | attached (owner property typeName : String) (value : Value)
  | initialized (ids : List String) (location : Option String)
deriving Repr

/-- Whether an event is more than a log record below the given level. -/
def Event.isUpTo (least : Level) : Event → Bool
  | .log level _ => level.rank ≤ least.rank
  | _ => true

/-- All objects and tables, and what has happened. -/
structure World where
  objects : Array Object
  tables : Array (Entries Value)
  trace : Array Event
  /-- Whether changes were once passed on more often than the host allows. -/
  exhausted : Bool

namespace World

/-- A world without objects, in which nothing has happened. -/
def empty : World := ⟨#[], #[], #[], false⟩

instance : Inhabited World := ⟨empty⟩

/-- The object with the given identity. -/
def object (w : World) (o : ObjectId) : Object := w.objects.getD o.index default

/-- The type name of an object. -/
def typeName (w : World) (o : ObjectId) : String := (w.object o).typeName

/-- The text of a value. -/
def text (w : World) (v : Value) : String := v.text w.typeName

/-- A new object. -/
def alloc (w : World) (x : Object) : ObjectId × World :=
  (⟨w.objects.size⟩, { w with objects := w.objects.push x })

/-- Changes an object in place. -/
def modify (w : World) (o : ObjectId) (f : Object → Object) : World :=
  { w with objects := w.objects.modify o.index f }

/-- The ids of a table with their values. -/
def table (w : World) (t : TableId) : Entries Value := w.tables.getD t.index .empty

/-- A new table with the given ids. -/
def allocTable (w : World) (ids : Entries Value) : TableId × World :=
  (⟨w.tables.size⟩, { w with tables := w.tables.push ids })

/-- Adds to the trace. -/
def emit (w : World) (e : Event) : World := { w with trace := w.trace.push e }

/-- Adds a log record to the trace. -/
def log (w : World) (level : Level) (text : String) : World := w.emit (.log level text)

/-- Appends to a list; any other object stays as it is. -/
def append (w : World) (o : ObjectId) (v : Value) : World :=
  w.modify o fun x =>
    match x.content with
    | .list items => { x with content := .list (items ++ [v]) }
    | _ => x

/-- Adds a subscriber to the named property. -/
def subscribe (w : World) (o : ObjectId) (name : String) (s : Subscriber) : World :=
  w.modify o fun x => { x with subscribers := x.subscribers ++ [(name, s)] }

/-- Adds a listener to the list behind the named property. -/
def addListener (w : World) (o : ObjectId) (name : String) (l : Listener) : World :=
  w.modify o fun x =>
    match x.content with
    | .bean b =>
      match b.slots.get? name with
      | some (.listeners list) =>
        let slot := Slot.listeners { list with listeners := list.listeners ++ [l] }
        { x with content := .bean { b with slots := b.slots.insert name slot } }
      | _ => x
    | _ => x

/-- What writing a property does: the world after it and, if somebody has to be told, the value that
was replaced. -/
structure Written where
  world : World
  previous : Option Value

/-- Stores `v` under the key of a dictionary. Nobody is told when the key held an equal value. -/
def storeKey (w : World) (o : ObjectId) (d : Dictionary) (name : String) (v : Value) : Written :=
  let previous := d.entries.get? name
  let next := { d with entries := d.entries.insert name v }
  { world := w.modify o fun x => { x with content := .dictionary next }
    previous :=
      match previous with
      | some p => if p == v then none else some p
      | none => some .null }

/-- Writes a property without telling anybody. -/
def assign (w : World) (o : ObjectId) (name : String) (v : Value) :
    Except PropertyError Written :=
  match (w.object o).content with
  | .bean b =>
    match b.slots.get? name with
    | none => .error (.noSuchProperty b.typeName name)
    | some (.writable t previous) => do
      let v ← t.coerce w.typeName name v
      let next := { b with slots := b.slots.insert name (.writable t v) }
      return { world := w.modify o fun x => { x with content := .bean next }
               previous := if previous == v then none else some previous }
    | some _ => .error (.readOnly b.typeName name)
  | .dictionary d => .ok (w.storeKey o d name v)
  | .list items =>
    match Object.index? items name with
    | some i =>
      .ok { world := w.modify o fun x => { x with content := .list (items.set i v) }
            previous := none }
    | none => .error (.readOnly Object.listType name)

end World

end Bxml
