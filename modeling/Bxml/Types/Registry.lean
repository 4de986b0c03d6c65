import Bxml.Types.Descriptor
import Bxml.Types.Factory

/-!
# Registered types

A registry is a factory of the types it was told about: declared types, whose objects are beans, and
types with constructors of their own. Attached properties are registered by the type that defines
them and their name.
-/

namespace Bxml

/-- The types and attached properties that are known. -/
structure TypeRegistry where
  constructors : Entries Constructor
  descriptors : Entries TypeDescriptor
  /-- The setters, by the type that attaches a property and the name of the property. -/
  attached : Entries (Entries AttachedSetter)

namespace TypeRegistry

/-- No types. -/
def empty : TypeRegistry := ⟨.empty, .empty, .empty⟩

/-- Adds a declared type. -/
def register (r : TypeRegistry) (d : TypeDescriptor) : TypeRegistry :=
  { r with
    constructors := r.constructors.insert d.name (Op.make d.instantiate)
    descriptors := r.descriptors.insert d.name d }

/-- Adds a type with a constructor of its own. -/
def registerConstructor (r : TypeRegistry) (typeName : String) (c : Constructor) : TypeRegistry :=
  { r with constructors := r.constructors.insert typeName c }

/-- Adds an attached property. -/
def registerAttached (r : TypeRegistry) (owner property : String) (s : AttachedSetter) :
    TypeRegistry :=
  let setters := (r.attached.get? owner).getD .empty
  { r with attached := r.attached.insert owner (setters.insert property s) }

/-- Whether objects of a type can be made. -/
def contains (r : TypeRegistry) (typeName : String) : Bool := r.constructors.contains typeName

/-- The declaration of a type. -/
def descriptor? (r : TypeRegistry) (typeName : String) : Option TypeDescriptor :=
  r.descriptors.get? typeName

/-- The setter of an attached property. -/
def setter? (r : TypeRegistry) (owner property : String) : Option AttachedSetter :=
  (r.attached.get? owner).bind (·.get? property)

/-- The qualified names of the attached properties. -/
def attachedNames (r : TypeRegistry) : List String :=
  r.attached.toList.flatMap fun p => p.2.keys.map (qualified p.1)

/-- The values that the declared types keep alive. -/
def heldValues (r : TypeRegistry) : List Value := r.descriptors.values.flatMap (·.heldValues)

/-- The factory of the registered types. -/
def factory (r : TypeRegistry) : TypeFactory where
  construct typeName :=
    match r.constructors.get? typeName with
    | some c => c
    | none => throw (.unknownType typeName)
  attach h owner property o v :=
    match r.setter? owner property with
    | some s => (s h o v).mapError .property
    | none => throw (.unknownAttached owner property)

end TypeRegistry

end Bxml
