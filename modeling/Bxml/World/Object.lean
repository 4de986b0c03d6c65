import Bxml.Entries
import Bxml.Interface
import Bxml.ValueType

/-!
# Objects

An object is a bean, whose properties are declared by its type, a dictionary, which takes any key,
or a list. Beans and dictionaries tell their subscribers of changes; lists do not.
-/

namespace Bxml

/-- The identity of a script engine. -/
structure EngineId where
  index : Nat
deriving DecidableEq, Repr, Inhabited

/-- The identity of what a host runs when a loaded document is complete. -/
structure HookId where
  index : Nat
deriving DecidableEq, Repr, Inhabited

/-- A function of a script engine, applied to every value that a binding passes on. -/
structure Mapping where
  engine : EngineId
  function : String
deriving DecidableEq, Repr

/-- A live connection from a property of one object to a property of another. It keeps neither of
them alive. -/
structure Binding where
  source : ObjectId
  sourceKey : String
  target : ObjectId
  targetKey : String
  mapping : Option Mapping
deriving DecidableEq, Repr

/-- Who is told of changes. -/
inductive Subscriber
  | binding (b : Binding)
  /-- Reports every change under its label. -/
  | watcher (label : String)
deriving DecidableEq, Repr

/-- Answers the methods of an interface by calling functions of a script engine. -/
structure Adapter where
  interface : Interface
  engine : EngineId
  functions : Entries String
  /-- Whether a method without a function of its own calls the function of its name. -/
  fallback : Bool

/-- Evaluates a script when one method of an interface is called. It does not keep the ids of its
document alive. -/
structure EventScript where
  interface : Interface
  engine : EngineId
  event : String
  script : String
  table : Option TableId

/-- Who is asked when a listener method is called. -/
inductive Listener
  | constant (v : Value)
  | failing (message : String)
  | adapter (a : Adapter)
  | script (e : EventScript)

/-- The listeners of one interface, in the order they were added. -/
structure ListenerList where
  interface : Interface
  listeners : List Listener

/-- How a named property may be used. -/
inductive PropertyKind
  | writable (t : ValueType)
  | readOnly
  | listeners (i : Interface)
deriving DecidableEq, Repr

/-- The words for how a property may be used. -/
def PropertyKind.text : PropertyKind → String
  | .writable t => s!"writable {t.text}"
  | .readOnly => "read-only"
  | .listeners i => s!"listeners {i.name}"

/-- A property of a bean with what it holds. -/
inductive Slot
  | writable (t : ValueType) (v : Value)
  | readOnly (v : Value)
  | listeners (l : ListenerList)

namespace Slot

/-- The value in a slot that holds one. -/
def value? : Slot → Option Value
  | .writable _ v => some v
  | .readOnly v => some v
  | .listeners _ => none

def kind : Slot → PropertyKind
  | .writable t _ => .writable t
  | .readOnly _ => .readOnly
  | .listeners l => .listeners l.interface

def listeners? : Slot → Option ListenerList
  | .listeners l => some l
  | _ => none

end Slot

/-- An object with declared properties. -/
structure Bean where
  typeName : String
  defaultProperty : Option String
  idProperty : Option String
  slots : Entries Slot

/-- An object that holds any keys. -/
structure Dictionary where
  typeName : String
  entries : Entries Value
  hook : Option HookId

/-- What an object is. -/
inductive Content
  | bean (b : Bean)
  | dictionary (d : Dictionary)
  | list (items : List Value)

/-- An object and who is told of changes of its properties, in the order they subscribed. -/
structure Object where
  content : Content
  subscribers : List (String × Subscriber)

namespace Object

/-- The type name of a dictionary of no particular type. -/
def dictionaryType : String := "Dictionary"

/-- The type name of lists. -/
def listType : String := "List"

/-- The property of a list that holds how long it is. -/
def lengthProperty : String := "length"

/-- An empty dictionary. -/
def emptyDictionary (typeName : String) : Object := ⟨.dictionary ⟨typeName, .empty, none⟩, []⟩

/-- A list nobody is told of. -/
def ofItems (items : List Value) : Object := ⟨.list items, []⟩

instance : Inhabited Object := ⟨emptyDictionary dictionaryType⟩

def typeName (o : Object) : String :=
  match o.content with
  | .bean b => b.typeName
  | .dictionary d => d.typeName
  | .list _ => listType

/-- The item of a list that a property name stands for. -/
def index? (items : List Value) (name : String) : Option Nat :=
  (Text.readIndex? name.toList).filter (· < items.length)

/-- How the named property may be used; nothing if there is none. -/
def propertyKind (o : Object) (name : String) : Option PropertyKind :=
  match o.content with
  | .bean b => (b.slots.get? name).map Slot.kind
  | .dictionary _ => some (.writable .any)
  | .list items =>
    if name = lengthProperty then some .readOnly
    else (index? items name).map fun _ => .writable .any

/-- Whether the named property leads to a value. -/
def hasProperty (o : Object) (name : String) : Bool :=
  match o.content with
  | .dictionary d => d.entries.contains name
  | _ =>
    match o.propertyKind name with
    | some (.writable _) => true
    | some .readOnly => true
    | _ => false

/-- The value of the named property. A dictionary has null under every other key. -/
def getProperty (o : Object) (name : String) : Except PropertyError Value :=
  match o.content with
  | .bean b =>
    match (b.slots.get? name).bind Slot.value? with
    | some v => .ok v
    | none => .error (.noSuchProperty b.typeName name)
  | .dictionary d => .ok ((d.entries.get? name).getD .null)
  | .list items =>
    if name = lengthProperty then .ok (.int (Int64.ofInt items.length))
    else
      match (index? items name).bind fun i => items[i]? with
      | some v => .ok v
      | none => .error (.noSuchProperty listType name)

/-- The names of the properties that hold values, in order. -/
def propertyNames (o : Object) : List String :=
  match o.content with
  | .bean b => (b.slots.toList.filter fun p => p.2.value?.isSome).map Prod.fst
  | .dictionary d => d.entries.keys
  | .list _ => []

/-- The property that takes nested content. -/
def defaultProperty (o : Object) : Option String :=
  match o.content with
  | .bean b => b.defaultProperty
  | _ => none

/-- The property that is set to the id of the object. -/
def idProperty (o : Object) : Option String :=
  match o.content with
  | .bean b => b.idProperty
  | _ => none

def bean? (o : Object) : Option Bean :=
  match o.content with
  | .bean b => some b
  | _ => none

def dictionary? (o : Object) : Option Dictionary :=
  match o.content with
  | .dictionary d => some d
  | _ => none

/-- The items of an object that content can be appended to. -/
def sequence? (o : Object) : Option (List Value) :=
  match o.content with
  | .list items => some items
  | _ => none

/-- The listeners behind the named property. -/
def listeners? (o : Object) (name : String) : Option ListenerList :=
  match o.content with
  | .bean b => (b.slots.get? name).bind Slot.listeners?
  | _ => none

/-- Whether the object tells of its changes. -/
def publishes (o : Object) : Bool :=
  match o.content with
  | .list _ => false
  | _ => true

/-- Who is told of changes of the named property. -/
def subscribersOf (o : Object) (name : String) : List Subscriber :=
  (o.subscribers.filter fun p => p.1 == name).map Prod.snd

/-- The values an object keeps alive. -/
def heldValues (o : Object) : List Value :=
  match o.content with
  | .bean b =>
    b.slots.values.flatMap fun s =>
      match s with
      | .listeners l =>
        l.listeners.filterMap fun x =>
          match x with
          | .constant v => some v
          | _ => none
      | s => s.value?.toList
  | .dictionary d => d.entries.values
  | .list items => items

end Object

end Bxml
