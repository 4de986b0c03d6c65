/-!
# Namespace prefixes

Every open element has a scope of declarations, innermost first. A prefix means the address of its
nearest declaration; an empty address undoes the declarations outside. The control prefix counts as
declared around the whole document, and `xml` is fixed.
-/

namespace Bxml.Xml

/-- The prefix of control elements and attributes. -/
def controlPrefix : String := "bxml"

/-- The address the control prefix stands for unless a document declares another. -/
def controlNamespace : String := "http://trellis.dev/bxml"

def xmlPrefix : String := "xml"

def xmlNamespace : String := "http://www.w3.org/XML/1998/namespace"

/-- One declaration: a prefix, or none for the default namespace, and its address. -/
abbrev Declaration := Option String × String

/-- The declarations of the open elements, innermost element first. -/
structure Scopes where
  scopes : List (List Declaration)
deriving Repr

namespace Scopes

/-- The scope around a document. -/
def outermost : Scopes := ⟨[[(some controlPrefix, controlNamespace)]]⟩

/-- The scopes inside an element with the given declarations. -/
def push (s : Scopes) (declarations : List Declaration) : Scopes := ⟨declarations :: s.scopes⟩

/-- The scopes outside the innermost element. -/
def pop (s : Scopes) : Scopes := ⟨s.scopes.tail⟩

/-- The address that `name?` stands for. -/
def resolve (s : Scopes) (name? : Option String) : Option String :=
  if name? = some xmlPrefix then some xmlNamespace
  else (s.scopes.flatten.lookup name?).filter (· != "")

end Scopes

end Bxml.Xml
