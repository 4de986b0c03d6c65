import Bxml.Load.Inclusion
import Bxml.Xml.Document
import Bxml.Text.Case

/-!
# Starts of elements

The start of an element decides what part the element plays. An instance is made at once, an
included document loaded, and a reference looked up; attributes that are not bound are resolved, to
be set when the element ends.
-/

namespace Bxml

/-- Whether the first character of a text is of a class. -/
def startsWith (p : Char → Bool) (l : List Char) : Bool :=
  match l with
  | c :: _ => p c
  | [] => false

/-- The type and the member that an attached name such as `Grid.row` consists of: the type starts in
uppercase, the member in lowercase, and there is one dot. -/
def splitAttached? (name : String) : Option (String × String) :=
  let owner := name.toList.takeWhile (· != pathSeparator)
  match name.toList.drop owner.length with
  | _ :: member =>
    if startsWith Text.isUppercase name.toList && startsWith Text.isLowercase member &&
        !member.contains pathSeparator then
      some (String.ofList owner, String.ofList member)
    else none
  | [] => none

/-- A type name qualified by the address of its namespace. -/
def qualifiedType (uri : Option String) (name : String) : String :=
  match uri with
  | some u => qualified u name
  | none => name

/-- What an element stands for: its kind, its name in messages, and its value if it has one. -/
structure Classified where
  kind : ElementKind
  name : String
  value : Value

/-- The kind of the control element with the given local name. -/
def controlKind? (name : String) : Option ElementKind :=
  if name = includeTag then some .inclusion
  else if name = scriptTag then some .script
  else if name = defineTag then some .definition
  else if name = referenceTag then some .reference
  else none

/-- What a control element stands for. -/
def classifyControl (stack : List Element) (name : String) (at_ : Location) :
    Op LoadError Classified := do
  require at_ (.controlRoot name) !stack.isEmpty
  let kind ← orFail at_ (.unknownControl name) (controlKind? name)
  return ⟨kind, controlName name, .null⟩

/-- What a readable property of an object stands for. -/
def classifyReadOnly (x : Object) (name parent : String) (at_ : Location) :
    Op LoadError Classified := do
  let v ← (Op.ofExcept (x.getProperty name)).mapError .property
  require at_ (.nullProperty name parent) !v.isNull
  return ⟨.readOnly, name, v⟩

/-- What a lowercase element stands for: a property of the object around it. -/
def classifyProperty (stack : List Element) (name : String) (at_ : Location) :
    Op LoadError Classified := do
  let parent ← orFail at_ (.propertyWithoutParent name) stack.head?
  let o ← objectOr at_ (.propertyOfKind name parent.kind) parent.value
  let x ← Op.read (·.object o)
  if x.dictionary?.isSome then return ⟨.writable, name, .null⟩
  else
    match x.propertyKind name with
    | none => failAt at_ (.unknownProperty name parent.name)
    | some (.listeners _) => return ⟨.listeners, name, .null⟩
    | some .readOnly => classifyReadOnly x name parent.name at_
    | some (.writable _) => return ⟨.writable, name, .null⟩

/-- What an element with an attached name stands for. -/
def classifyAttached (stack : List Element) (tag : Xml.StartTag) (owner property : String)
    (at_ : Location) : Op LoadError Classified := do
  let parent ← orFail at_ (.attachedWithoutParent tag.name) stack.head?
  let _ ← objectOr at_ (.attachedToKind tag.name parent.kind) parent.value
  let owner := qualifiedType tag.namespaceUri owner
  return ⟨.attached, qualified owner property, .null⟩

/-- The object that an uppercase element stands for, made for it. -/
def classifyInstance (l : Loader) (tag : Xml.StartTag) : Op LoadError Classified := do
  let typeName := qualifiedType tag.namespaceUri tag.name
  let o ← (l.factory.construct typeName).mapError .type
  Op.log .trace s!"Constructed {typeName}"
  return ⟨.instanceOf, tag.name, .object o⟩

/-- What an element stands for. -/
def classify (l : Loader) (stack : List Element) (tag : Xml.StartTag) (at_ : Location) :
    Op LoadError Classified :=
  if tag.space = some Xml.controlPrefix then classifyControl stack tag.name at_
  else
    match splitAttached? tag.name with
    | some (owner, property) => classifyAttached stack tag owner property at_
    | none =>
      if startsWith Text.isUppercase tag.name.toList then classifyInstance l tag
      else if tag.space.isSome then failAt at_ .prefixedProperty
      else classifyProperty stack tag.name at_

/-- Checks that an id may be given to an element of a kind. -/
def checkId (c : DocumentContext) (kind : ElementKind) (id : String) (at_ : Location) :
    Op LoadError Unit := do
  require at_ (.invalidId id) (id ≠ "" ∧ pathSeparator ∉ id.toList)
  Op.check fun w =>
    if (w.table c.table).contains id then .error (.table (.duplicateId id)) else .ok ()
  require at_ .unacceptedId kind.acceptsId

/-- An element under way with its bound attributes. -/
structure Attributed where
  element : Element
  /-- The names and expressions of the bound attributes. -/
  bound : List (String × String)

namespace Attributed

/-- Adds an attribute with the control prefix, which can only be the id. -/
def addId (c : DocumentContext) (x : Attributed) (a : Xml.MarkupAttribute) :
    Op LoadError Attributed := do
  let e := x.element
  require e.location (.controlAttribute a.name) (a.name = idAttribute)
  checkId c e.kind a.value e.location
  return { x with element := { e with id := some a.value } }

/-- Adds an attribute that steers the element. -/
def addControl (x : Attributed) (a : Xml.MarkupAttribute) : Attributed :=
  { x with element := { x.element with control := x.element.control.insert a.name a.value } }

/-- Adds an attribute that is to be set on the value of the element. -/
def addValue (x : Attributed) (name : String) (v : Value) : Attributed :=
  { x with element := { x.element with attributes := x.element.attributes.insert name v } }

/-- Adds an attribute that names a member of the type `owner`. -/
def addAttached (uri : Option String) (x : Attributed) (a : Xml.MarkupAttribute)
    (owner member : String) : Op LoadError Attributed := do
  let e := x.element
  require e.location (.attachedAttribute a.name e.kind) e.kind.acceptsAttached
  let entry : AttachedAttribute := ⟨qualifiedType uri owner, owner, member, a.value⟩
  return { x with element := { e with attached := e.attached ++ [entry] } }

/-- Adds an attribute whose value is resolved, unless it is bound. -/
def addResolved (c : DocumentContext) (x : Attributed) (a : Xml.MarkupAttribute) :
    Op LoadError Attributed := do
  match ← c.resolveAttribute a.value x.element.location with
  | .resolved v => return x.addValue a.name v
  | .binding expression => return { x with bound := x.bound ++ [(a.name, expression)] }

/-- Adds an attribute to an element whose namespace has the given address. -/
def add (c : DocumentContext) (uri : Option String) (x : Attributed) (a : Xml.MarkupAttribute) :
    Op LoadError Attributed :=
  let e := x.element
  if a.space = some Xml.controlPrefix then x.addId c a
  else if e.kind.controlAttributes.contains a.name then return x.addControl a
  else
    match splitAttached? a.name with
    | some (owner, member) => x.addAttached uri a owner member
    | none =>
      match e.kind with
      | .listeners => return x.addValue a.name (.string a.value)
      | .script | .definition | .writable | .attached =>
        failAt e.location (.unsupportedAttribute a.name e.kind)
      | .instanceOf | .readOnly | .inclusion | .reference => x.addResolved c a

end Attributed

/-- The value a reference stands for. -/
def resolveReference (c : DocumentContext) (e : Element) : Op LoadError Value := do
  let id ← orFail e.location (.missingAttribute idAttribute referenceTag)
    (e.control.get? idAttribute)
  Op.check fun w =>
    match (w.table c.table).get? id with
    | some v => .ok v
    | none => .error (.table (.undefined id))

/-- The bindings that the bound attributes of an element ask for. -/
def pendingBindings (x : Attributed) : Op LoadError (List PendingBinding) := do
  let e := x.element
  if x.bound.isEmpty then return []
  else
    require e.location (.bindingsOnKind e.kind) e.kind.acceptsBindings
    let o ← objectOr e.location (.bindingWithoutObject e.name) e.value
    return x.bound.map fun p => ⟨o, p.1, p.2, e.location⟩

/-- Where an element takes its value from: an included document, with what is there for loading it,
or what the element itself says. -/
inductive Origin (α : Type)
  | inclusion (nested : α) (i : Inclusion)
  | known (v : Value)

/-- Starts an element as far as that is possible without loading another document. -/
def startElement {α : Type} (l : Loader) (c : DocumentContext) (nested : Option α) (d : Draft)
    (tag : Xml.StartTag) (at_ : Location) : Op LoadError (Attributed × Origin α) := do
  let found ← classify l d.stack tag at_
  let x ← tag.attributes.foldlM (Attributed.add c tag.namespaceUri)
    ⟨.new found.kind found.name found.value at_, []⟩
  match found.kind with
  | .inclusion => do
    let (nested, i) ← prepareInclusion l c nested d x.element
    return (x, .inclusion nested i)
  | .reference => return (x, .known (← resolveReference c x.element))
  | _ => return (x, .known x.element.value)

/-- Puts an element that has its value on the stack. -/
def Draft.push (d : Draft) (x : Attributed) (v : Value) (parented : List ObjectId) :
    Op LoadError Draft := do
  let x := { x with element := { x.element with value := v } }
  let bindings ← pendingBindings x
  return { d with
    stack := x.element :: d.stack
    bindings := d.bindings ++ bindings
    parented := parented }

/-- Starts an element. -/
def Draft.openElement (l : Loader) (c : DocumentContext) (nested : Option NestedLoad)
    (d : Draft) (tag : Xml.StartTag) (at_ : Location) : Op LoadError Draft := do
  let d := d.settleLanguage l
  let (x, origin) ← startElement l c nested d tag at_
  match origin with
  | .inclusion nested i => do
    let (v, parented) ← i.load l nested d.parented
    d.push x v parented
  | .known v => d.push x v d.parented

end Bxml
