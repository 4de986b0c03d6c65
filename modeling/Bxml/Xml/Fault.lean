/-!
# What is wrong with an XML text

Each cause has its wording. Places inside a tag or an attribute value are counted in bytes.
-/

namespace Bxml.Xml

/-- Why a character reference stands for no character. -/
inductive ReferenceFault
  | sign
  | empty
  | digit
  | tooLarge
  | zero
  | codePoint (n : Nat)
deriving DecidableEq, Repr

/-- Why a text cannot be unescaped. -/
inductive EscapeFault
  | unterminated (start stop : Nat)
  | unknownEntity (start stop : Nat) (name : List Char)
  | reference (f : ReferenceFault)
deriving DecidableEq, Repr

/-- Why the inside of a tag is no list of attributes. -/
inductive AttributeFault
  | expectedEquals (position : Nat)
  | expectedValue (position : Nat)
  | unquoted (position : Nat)
  | expectedQuote (position : Nat) (quote : Char)
  | duplicated (position previous : Nat)
deriving DecidableEq, Repr

/-- Why a text is no XML. -/
inductive Fault
  | unclosedReference
  | unclosedCData
  | unclosedComment
  | unclosedDoctype
  | unclosedInstruction
  | unclosedDeclaration
  | unclosedTag
  | unclosedQuote (quote : Char)
  | unknownMarkup
  | namelessDoctype
  | mismatchedEnd (expected found : List Char)
  | unmatchedEnd (found : List Char)
  | attribute (f : AttributeFault)
  | escape (f : EscapeFault)
  | undeclaredPrefix (name : String)
deriving DecidableEq, Repr

def ReferenceFault.message : ReferenceFault → String
  | .sign => "unexpected number sign"
  | .empty => "cannot parse integer from empty string"
  | .digit => "invalid digit found in string"
  | .tooLarge => "number too large to fit in target type"
  | .zero => "0x0 character is not permitted in XML"
  | .codePoint n => s!"`{n}` is not a valid codepoint"

def EscapeFault.message : EscapeFault → String
  | .unterminated start stop =>
    s!"Error while escaping character at range {start}..{stop}: Cannot find ';' after '&'"
  | .unknownEntity start stop name =>
    s!"at {start}..{stop}: unrecognized entity `{String.ofList name}`"
  | .reference f => s!"invalid character reference: {f.message}"

def AttributeFault.message : AttributeFault → String
  | .expectedEquals p => s!"position {p}: attribute key must be directly followed by `=` or space"
  | .expectedValue p => s!"position {p}: `=` must be followed by an attribute value"
  | .unquoted p => s!"position {p}: attribute value must be enclosed in `\"` or `'`"
  | .expectedQuote p q => s!"position {p}: missing closing quote `{q}` in attribute value"
  | .duplicated p q =>
    s!"position {p}: duplicated attribute, previous declaration at position {q}"

/-- A part of a document that lacks its end. -/
def notClosed (what mark : String) : String :=
  s!"syntax error: {what} not closed: `{mark}` not found before end of input"

/-- The wording of a fault. -/
def Fault.message : Fault → String
  | .unclosedReference =>
    "ill-formed document: entity or character reference not closed: `;` not found before end of input"
  | .unclosedCData => notClosed "CDATA" "]]>"
  | .unclosedComment => notClosed "comment" "-->"
  | .unclosedDoctype => notClosed "DOCTYPE" ">"
  | .unclosedInstruction => notClosed "processing instruction" "?>"
  | .unclosedDeclaration => notClosed "XML declaration" "?>"
  | .unclosedTag => notClosed "tag" ">"
  | .unclosedQuote q => notClosed "attribute value" (String.singleton q)
  | .unknownMarkup => "syntax error: unknown or missed symbol in markup"
  | .namelessDoctype =>
    "ill-formed document: `<!DOCTYPE>` declaration does not contain a name of a document type"
  | .mismatchedEnd expected found =>
    s!"ill-formed document: expected `</{String.ofList expected}>`, but `</{String.ofList found}>` was found"
  | .unmatchedEnd found =>
    s!"ill-formed document: close tag `</{String.ofList found}>` does not match any open tag"
  | .attribute f => f.message
  | .escape f => f.message
  | .undeclaredPrefix name => s!"Undeclared namespace prefix in <{name}>"

end Bxml.Xml
