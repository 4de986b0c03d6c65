import Bxml.World.Object
import Bxml.Xml.Location
import Bxml.Xml.Prefixes

/-!
# Open elements

What is known of an element between its start and its end. Uppercase elements stand for objects,
lowercase ones for properties of their parent, and elements with the control prefix for includes,
scripts, definitions and references.
-/

namespace Bxml

/-- The part an element plays. -/
inductive ElementKind
  | instanceOf
  | readOnly
  | writable
  /-- A property that one type attaches to objects of other types. -/
  | attached
  | listeners
  | inclusion
  | script
  | definition
  | reference
deriving DecidableEq, Repr

namespace ElementKind

/-- The words for a kind of element. -/
def text : ElementKind → String
  | .instanceOf => "instance"
  | .readOnly => "read-only property"
  | .writable => "writable property"
  | .attached => "attached property"
  | .listeners => "listener list property"
  | .inclusion => "include"
  | .script => "script"
  | .definition => "define"
  | .reference => "reference"

/-- Whether an element of this kind may have an id. -/
def acceptsId : ElementKind → Bool
  | .instanceOf | .inclusion => true
  | _ => false

/-- Whether attached properties may be set on the value of an element of this kind. -/
def acceptsAttached : ElementKind → Bool
  | .instanceOf | .inclusion => true
  | _ => false

/-- Whether attributes of an element of this kind may be bound. -/
def acceptsBindings : ElementKind → Bool
  | .instanceOf | .inclusion | .readOnly => true
  | _ => false

/-- Whether the value of an element of this kind goes to its parent. -/
def isComposed : ElementKind → Bool
  | .instanceOf | .inclusion | .reference => true
  | _ => false

/-- Whether text or an object inside an element of this kind becomes its value. -/
def takesValue : ElementKind → Bool
  | .writable | .attached => true
  | _ => false

end ElementKind

/-- The local names of control elements. -/
def includeTag : String := "include"

@[inherit_doc includeTag]
def scriptTag : String := "script"

@[inherit_doc includeTag]
def defineTag : String := "define"

@[inherit_doc includeTag]
def referenceTag : String := "reference"

/-- The attribute that gives an element its id, with the control prefix. On a reference, without
prefix, it names the id that is meant. -/
def idAttribute : String := "id"

/-- The attribute that says where an include or a script is read from. -/
def srcAttribute : String := "src"

/-- The attribute that names a bundle for an included document. -/
def resourcesAttribute : String := "resources"

/-- The attribute that makes an included document share the ids of the including one. -/
def inlineAttribute : String := "inline"

/-- The attribute that names the encoding of an included document. -/
def charsetAttribute : String := "charset"

/-- The attributes that steer an element of this kind instead of being set on its value. -/
def ElementKind.controlAttributes : ElementKind → List String
  | .inclusion => [srcAttribute, resourcesAttribute, inlineAttribute, charsetAttribute]
  | .script => [srcAttribute]
  | .reference => [idAttribute]
  | _ => []

/-- A name with the control prefix. -/
def controlName (name : String) : String := s!"{Xml.controlPrefix}:{name}"

/-- An attribute that names a type and a property or method of it. -/
structure AttachedAttribute where
  /-- The type, qualified by the namespace of the element. -/
  ownerType : String
  /-- The type as it is written. -/
  owner : String
  member : String
  value : String
deriving DecidableEq, Repr

/-- An element that has started and not yet ended. -/
structure Element where
  kind : ElementKind
  /-- The local name of the element, with what qualifies it in messages. -/
  name : String
  value : Value
  id : Option String
  /-- The attributes that steer the element, as they are written. -/
  control : Entries String
  /-- The attributes to be set on the value when the element ends. -/
  attributes : Entries Value
  attached : List AttachedAttribute
  text : Option String
  location : Location

namespace Element

/-- An element without attributes. -/
def new (kind : ElementKind) (name : String) (value : Value) (location : Location) : Element :=
  ⟨kind, name, value, none, .empty, .empty, [], none, location⟩

/-- The values that an element keeps alive. -/
def heldValues (e : Element) : List Value := e.value :: e.attributes.values

end Element

end Bxml
