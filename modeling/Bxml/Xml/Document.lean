import Bxml.Text.Blank
import Bxml.Xml.Location
import Bxml.Xml.Prefixes
import Bxml.Xml.Token

/-!
# Events of a document

The events a document consists of: processing instructions, starts and ends of elements, and the
text between them. Adjacent text, CDATA sections and references are one text; comments,
declarations and document types do not divide it. Text that no markup follows is not reported.
-/

namespace Bxml.Xml

/-- An attribute that declares no prefix. -/
structure MarkupAttribute where
  space : Option String
  name : String
  value : String
deriving DecidableEq, Repr

/-- The start of an element: the address and the prefix of its name, its local name, and its
attributes. -/
structure StartTag where
  namespaceUri : Option String
  space : Option String
  name : String
  attributes : List MarkupAttribute
deriving DecidableEq, Repr

/-- An event of a document. -/
inductive Event
  | instruction (target data : String)
  | start (tag : StartTag)
  | close
  | characters (text : String)
deriving DecidableEq, Repr

/-- An event with the location it is reported for and the location of the markup that made it
known. The two differ for text. -/
structure Located where
  event : Event
  location : Location
  seen : Location
deriving DecidableEq, Repr

/-- The events of a document, and the fault that ends it with its location. `stop` is the location
where reading ended. -/
structure Events where
  items : List Located
  fault : Option Fault
  stop : Location
deriving Repr

/-- A name divided at its first colon. -/
def splitName (l : List Char) : Option String × String :=
  let front := l.takeWhile (· != ':')
  match l.drop front.length with
  | [] => (none, String.ofList l)
  | _ :: r => (some (String.ofList front), String.ofList r)

/-- The word that declares prefixes. -/
def declarationWord : String := "xmlns"

/-- The declaration an attribute makes. -/
def declaration? (a : Attribute) : Option Declaration :=
  match splitName a.key with
  | (none, n) => if n = declarationWord then some (none, String.ofList a.value) else none
  | (some p, n) => if p = declarationWord then some (some n, String.ofList a.value) else none

/-- The start tag with the given inside, and the scopes inside its element. -/
def startTag (scopes : Scopes) (inside : List Char) : Except Fault (StartTag × Scopes) := do
  let all ← attributes inside
  let scopes := scopes.push (all.filterMap declaration?)
  let attributes := (all.filter fun a => (declaration? a).isNone).map fun a =>
    let (space, name) := splitName a.key
    (⟨space, name, String.ofList a.value⟩ : MarkupAttribute)
  let (space, name) := splitName (tagName inside)
  let uri := scopes.resolve space
  if space.isSome && uri.isNone then throw (.undeclaredPrefix (String.ofList (tagName inside)))
  return (⟨uri, space, name, attributes⟩, scopes)

/-- Target and data of an instruction. -/
def splitInstruction (content : List Char) : String × String :=
  let l := Text.trimChars content
  let target := l.takeWhile fun c => !Text.isBlank c
  (String.ofList target, String.ofList (Text.trimChars (l.drop target.length)))

/-- Text that has been read and not yet reported, and where its first piece stands. -/
structure Pending where
  text : List Char
  location : Location

namespace Pending

/-- No text. -/
def none : Pending := ⟨[], .none⟩

/-- The text with a further piece. -/
def push (p : Pending) (piece : List Char) (location : Location) : Pending :=
  if p.text.isEmpty then ⟨piece, location⟩ else ⟨p.text ++ piece, p.location⟩

/-- The event that reports the text, if there is any. -/
def flush (p : Pending) (seen : Location) : List Located :=
  if p.text.isEmpty then [] else [⟨.characters (String.ofList p.text), p.location, seen⟩]

end Pending

/-- What is known between two tokens. -/
structure Progress where
  scopes : Scopes
  pending : Pending

/-- The events a token at `location` makes known, and the progress after it. Text that the token
ends is reported even when the token itself is at fault. -/
def Progress.step (p : Progress) (location : Location) :
    Token → List Located × Except Fault Progress
  | .openTag inside =>
    let text := p.pending.flush location
    match startTag p.scopes inside with
    | .ok (tag, scopes) => (text ++ [⟨.start tag, location, location⟩], .ok ⟨scopes, .none⟩)
    | .error f => (text, .error f)
  | .closeTag =>
    (p.pending.flush location ++ [⟨.close, location, location⟩], .ok ⟨p.scopes.pop, .none⟩)
  | .text l => ([], .ok { p with pending := p.pending.push l location })
  | .cdata l => ([], .ok { p with pending := p.pending.push l location })
  | .reference name =>
    -- offsets count the ampersand
    match expand name 1 (1 + byteSize name) with
    | .ok c => ([], .ok { p with pending := p.pending.push [c] location })
    | .error f => ([], .error (.escape f))
  | .instruction content =>
    let (target, data) := splitInstruction content
    (p.pending.flush location ++ [⟨.instruction target data, location, location⟩],
      .ok { p with pending := .none })
  | .skipped => ([], .ok p)

/-- The events of some tokens, followed by the end of the document at `stop`. -/
def eventsFrom (stop : Nat) (fault : Option Fault) :
    LineTracker → Progress → List (Nat × Token) → Events
  | lines, _, [] =>
    let (location, _) := lines.advance stop
    ⟨[], fault, location⟩
  | lines, p, (offset, t) :: r =>
    let (location, lines) := lines.advance offset
    match p.step location t with
    | (items, .error f) => ⟨items, some f, location⟩
    | (items, .ok p) =>
      let es := eventsFrom stop fault lines p r
      { es with items := items ++ es.items }

/-- The events of a document. -/
def events (source : String) : Events :=
  let ts := tokens source.toList
  eventsFrom ts.stop ts.fault (.start (source.toList.flatMap String.utf8EncodeChar))
    ⟨.outermost, .none⟩ ts.items

end Bxml.Xml
