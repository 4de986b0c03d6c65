import Bxml.Load.Element

/-!
# Structural faults

What can be wrong with the structure of a well-formed document. Every fault has its wording.
-/

namespace Bxml

/-- A fault in the structure of a document. -/
inductive StructureFault
  -- the document as a whole
  | unexpectedEnd (name : String)
  | noRoot
  | languageSet
  | textOutsideRoot
  | unbalancedEnd
  -- what an element stands for
  | controlRoot (name : String)
  | unknownControl (name : String)
  | attachedWithoutParent (name : String)
  | attachedToKind (name : String) (kind : ElementKind)
  | prefixedProperty
  | propertyWithoutParent (name : String)
  | propertyOfKind (name : String) (kind : ElementKind)
  | unknownProperty (name element : String)
  | nullProperty (name element : String)
  -- attributes
  | controlAttribute (name : String)
  | attachedAttribute (name : String) (kind : ElementKind)
  | unsupportedAttribute (name : String) (kind : ElementKind)
  | invalidId (id : String)
  | unacceptedId
  | emptyBinding
  | emptyLocation
  | emptyResourceKey
  | emptyReference
  | missingAttribute (name tag : String)
  | attributesWithoutObject (element : String)
  -- bindings
  | bindingsOnKind (kind : ElementKind)
  | bindingWithoutObject (element : String)
  | invalidBinding (expression : String)
  -- composition
  | alreadyParented (typeName : String)
  | valueIsNoContainer (kind : String)
  | isNoContainer (typeName : String)
  | unacceptedText (typeName text : String)
  | textInKind (kind : ElementKind)
  | instanceWithoutObject
  | propertyWithoutObject (name : String)
  -- attached properties and listeners
  | attachedWithoutObject (element : String)
  | attachedWithoutOwner (name : String)
  | invalidAttached (name : String)
  | boundAttached (owner member : String)
  | unknownMethod (method interface : String)
  | listenersWithoutParent
  | listenersWithoutObject
  | noListenerList (name typeName : String)
  -- includes and scripts
  | tooDeep (src : String) (limit : Nat)
  | noBundleLoader (name : String)
  | unknownScriptType (src : String)
deriving DecidableEq, Repr

/-- The wording of a structural fault. -/
def StructureFault.message : StructureFault → String
  | .unexpectedEnd name => s!"Unexpected end of document inside <{name}>."
  | .noRoot => "Document has no root element."
  | .languageSet => "Language already set."
  | .textOutsideRoot => "Unexpected characters outside the root element."
  | .unbalancedEnd => "Unbalanced end element."
  | .controlRoot name => s!"Invalid root element <{controlName name}>."
  | .unknownControl name => s!"<{controlName name}> is not a valid element."
  | .attachedWithoutParent name => s!"Attached property <{name}> has no parent."
  | .attachedToKind name kind => s!"<{name}> cannot be attached to a {kind.text} element."
  | .prefixedProperty => "Property elements cannot have a namespace prefix."
  | .propertyWithoutParent name => s!"Property element <{name}> has no parent."
  | .propertyOfKind name kind => s!"<{name}> cannot be a property of a {kind.text} element."
  | .unknownProperty name element =>
    s!"\"{name}\" is not a valid property of element <{element}>."
  | .nullProperty name element => s!"Read-only property \"{name}\" of <{element}> is null."
  | .controlAttribute name => s!"{controlName name} is not a valid attribute."
  | .attachedAttribute name kind => s!"\"{name}\" cannot be attached to a {kind.text} element."
  | .unsupportedAttribute name kind =>
    s!"Attribute \"{name}\" is not supported on a {kind.text} element."
  | .invalidId id => s!"\"{id}\" is not a valid ID value."
  | .unacceptedId => "An ID cannot be assigned to this element."
  | .emptyBinding => "Invalid binding expression."
  | .emptyLocation => "Invalid URL resolution argument."
  | .emptyResourceKey => "Invalid resource resolution argument."
  | .emptyReference => "Invalid object resolution argument."
  | .missingAttribute name tag => s!"{name} attribute is required for {controlName tag} tag."
  | .attributesWithoutObject element =>
    s!"Attributes cannot be applied to the value of <{element}>."
  | .bindingsOnKind kind => s!"Bindings are not supported on a {kind.text} element."
  | .bindingWithoutObject element => s!"<{element}> does not produce an object to bind to."
  | .invalidBinding expression => s!"Invalid binding expression \"{expression}\"."
  | .alreadyParented typeName => s!"This {typeName} already has a parent."
  | .valueIsNoContainer kind => s!"A {kind} value is not a container."
  | .isNoContainer typeName => s!"{typeName} is not a container."
  | .unacceptedText typeName text => s!"Text content cannot be added to {typeName}: \"{text}\"."
  | .textInKind kind => s!"Unexpected characters in {kind.text} element."
  | .instanceWithoutObject => "Instance has no value."
  | .propertyWithoutObject name => s!"Property <{name}> has no parent object."
  | .attachedWithoutObject element =>
    s!"Attached attributes cannot be applied to the value of <{element}>."
  | .attachedWithoutOwner name => s!"Attached property <{name}> has no parent object."
  | .invalidAttached name => s!"\"{name}\" is not a valid attached property."
  | .boundAttached owner member => s!"Attached property \"{owner}.{member}\" cannot be bound."
  | .unknownMethod method interface => s!"\"{method}\" is not a method of {interface}."
  | .listenersWithoutParent => "Listener element has no parent."
  | .listenersWithoutObject => "Listener element has no parent object."
  | .noListenerList name typeName => s!"\"{name}\" is not a listener list of {typeName}."
  | .tooDeep src limit => s!"Include of \"{src}\" exceeds the maximum depth of {limit}."
  | .noBundleLoader name => s!"No resource bundle loader is configured for \"{name}\"."
  | .unknownScriptType src => s!"Cannot determine type of script \"{src}\"."

end Bxml
