import Bxml.World.Basic

/-!
# Declared types

A type declares the properties of its objects once. Making an object fills every property with its
initial value: writable ones with the same value for every object, read-only ones with a value made
afresh.
-/

namespace Bxml

/-- How a type declares a property. -/
inductive PropertySpec
  | writable (t : ValueType) (initial : Value)
  | readOnly (make : World → Value × World)
  | listeners (i : Interface)

/-- A type of beans. -/
structure TypeDescriptor where
  name : String
  properties : Entries PropertySpec
  defaultProperty : Option String
  idProperty : Option String

namespace PropertySpec

/-- How a property declared like this may be used. -/
def kind : PropertySpec → PropertyKind
  | .writable t _ => .writable t
  | .readOnly _ => .readOnly
  | .listeners i => .listeners i

/-- The slot of a new object. -/
def newSlot : PropertySpec → World → Slot × World
  | .writable t v, w => (.writable t v, w)
  | .readOnly make, w => (.readOnly (make w).1, (make w).2)
  | .listeners i, w => (.listeners ⟨i, []⟩, w)

/-- The value that is shared by all objects. -/
def sharedValue? : PropertySpec → Option Value
  | .writable _ v => some v
  | _ => none

end PropertySpec

namespace TypeDescriptor

/-- How the named property may be used. -/
def propertyKind (d : TypeDescriptor) (name : String) : Option PropertyKind :=
  (d.properties.get? name).map PropertySpec.kind

/-- The slots of a new object. -/
def newSlots : List (String × PropertySpec) → World → List (String × Slot) × World
  | [], w => ([], w)
  | (name, p) :: r, w =>
    let (slot, w) := p.newSlot w
    let (slots, w) := newSlots r w
    ((name, slot) :: slots, w)

/-- Makes an object of the type. -/
def instantiate (d : TypeDescriptor) (w : World) : ObjectId × World :=
  let (slots, w) := newSlots d.properties.toList w
  w.alloc ⟨.bean ⟨d.name, d.defaultProperty, d.idProperty, .ofList slots⟩, []⟩

/-- The values that the type itself keeps alive. -/
def heldValues (d : TypeDescriptor) : List Value := d.properties.values.filterMap (·.sharedValue?)

end TypeDescriptor

end Bxml
