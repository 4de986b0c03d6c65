import Bxml.Xml.Attributes

/-!
# Tokens of an XML text

The text is cut into tags, runs of text, references, CDATA sections and instructions, each with the
offset where it starts. End tags must match the open tags. A byte order mark at the start is
dropped and not counted.
-/

namespace Bxml.Xml

/-- A piece of an XML text. -/
inductive Token
  /-- The inside of a start tag, without the slash of an empty one. -/
  | openTag (inside : List Char)
  | closeTag
  | text (l : List Char)
  | cdata (l : List Char)
  | reference (name : List Char)
  | instruction (content : List Char)
  /-- A comment, an XML declaration or a document type. -/
  | skipped
deriving DecidableEq, Repr

/-- Where the cutting stands: the offset, the rest, the names of the open tags, and whether the last
tag was empty and still has to be closed. -/
structure Scanner where
  offset : Nat
  rest : List Char
  opened : List (List Char)
  closing : Bool

/-- A token with the scanner after it, nothing at the end of the text, or a fault. -/
abbrev Scan := Except Fault (Option (Token × Scanner))

namespace Scanner

/-- A scanner at the start of a text. -/
def start (l : List Char) : Scanner :=
  ⟨0, match l with
    | '\ufeff' :: r => r
    | r => r, [], false⟩

/-- The scanner past `taken`, which is the start of its rest. -/
def past (s : Scanner) (taken : List Char) : Scanner :=
  { s with offset := s.offset + byteSize taken, rest := s.rest.drop taken.length }

/-- The text before the first occurrence of `mark`. -/
def before? (mark : List Char) : List Char → Option (List Char)
  | [] => if mark.isEmpty then some [] else none
  | c :: r => if mark.isPrefixOf (c :: r) then some [] else (before? mark r).map (c :: ·)

/-- The text of a tag before its `>`, which counts outside quotes only, or the quote that is still
open at the end. -/
def insideTag (quote : Option Char) : List Char → Except (Option Char) (List Char)
  | [] => .error quote
  | c :: r =>
    match quote with
    | none =>
      if c = '>' then .ok []
      else
        let q := if c = '"' ∨ c = '\'' then some c else none
        (insideTag q r).map (c :: ·)
    | some q => (insideTag (if c = q then none else some q) r).map (c :: ·)

/-- The text of a document type before its `>`, which counts outside quotes and brackets only. -/
def insideDoctype (quote : Option Char) (depth : Nat) : List Char → Option (List Char)
  | [] => none
  | c :: r =>
    match quote with
    | some q => (insideDoctype (if c = q then none else some q) depth r).map (c :: ·)
    | none =>
      if c = '>' ∧ depth = 0 then some []
      else
        let q := if c = '"' ∨ c = '\'' then some c else none
        let d := if c = '[' then depth + 1 else if c = ']' then depth - 1 else depth
        (insideDoctype q d r).map (c :: ·)

/-- Reads what starts with `<!`. -/
def scanBang (s : Scanner) : Scan :=
  match s.rest.drop 2 with
  | '[' :: r =>
    match before? [']', ']', '>'] ('[' :: r) with
    | none => .error .unclosedCData
    | some body =>
      let mark := ['[', 'C', 'D', 'A', 'T', 'A', '[']
      if mark.isPrefixOf body then
        .ok (some (.cdata (body.drop 7), s.past (['<', '!'] ++ body ++ [']', ']', '>'])))
      else .error .unclosedCData
  | '-' :: r =>
    -- the shortest comment has four dashes
    match before? ['-', '-', '>'] (r.drop 1) with
    | none => .error .unclosedComment
    | some body =>
      if r.head? == some '-' then
        .ok (some (.skipped, s.past (['<', '!', '-'] ++ r.take 1 ++ body ++ ['-', '-', '>'])))
      else .error .unclosedComment
  | c :: r =>
    if c == 'D' || c == 'd' then
      match insideDoctype none 0 (c :: r) with
      | none => .error .unclosedDoctype
      | some body =>
        let word := ['d', 'o', 'c', 't', 'y', 'p', 'e']
        if (body.take 7).map Char.toLower == word then
          if (body.drop 7).all isTagBlank then .error .namelessDoctype
          else .ok (some (.skipped, s.past (['<', '!'] ++ body ++ ['>'])))
        else .error .unclosedDoctype
    else .error .unknownMarkup
  | [] => .error .unknownMarkup

/-- Whether an instruction is the XML declaration. -/
def isDeclaration (content : List Char) : Bool :=
  match content with
  | ['x', 'm', 'l'] => true
  | 'x' :: 'm' :: 'l' :: c :: _ => isTagBlank c
  | _ => false

/-- Whether an instruction without an end was to be the XML declaration. -/
def startsDeclaration (content : List Char) : Bool :=
  isDeclaration content ||
    match content with
    | 'x' :: 'm' :: 'l' :: '?' :: _ => true
    | _ => false

/-- Reads what starts with `<?`. -/
def scanInstruction (s : Scanner) : Scan :=
  match s.rest.drop 2 with
  | '>' :: _ => .error .unclosedInstruction
  | content =>
    match before? ['?', '>'] content with
    | none =>
      .error (if startsDeclaration content then .unclosedDeclaration else .unclosedInstruction)
    | some body =>
      let after := s.past (['<', '?'] ++ body ++ ['?', '>'])
      .ok (some (if isDeclaration body then .skipped else .instruction body, after))

/-- The fault of a tag that does not end. -/
def openEnd : Option Char → Fault
  | none => .unclosedTag
  | some q => .unclosedQuote q

/-- Reads an end tag. -/
def scanClose (s : Scanner) : Scan :=
  match insideTag none (s.rest.drop 1) with
  | .error q => .error (openEnd q)
  | .ok body =>
    let raw := body.drop 1
    let trimmed := (raw.reverse.dropWhile isTagBlank).reverse
    let name := if trimmed.isEmpty then raw else trimmed
    match s.opened with
    | [] => .error (.unmatchedEnd name)
    | expected :: outer =>
      if name = expected then
        .ok (some (.closeTag, { s.past ('<' :: body ++ ['>']) with opened := outer }))
      else .error (.mismatchedEnd expected name)

/-- Reads a start tag. -/
def scanOpen (s : Scanner) : Scan :=
  match insideTag none (s.rest.drop 1) with
  | .error q => .error (openEnd q)
  | .ok body =>
    let after := s.past ('<' :: body ++ ['>'])
    let empty := body.getLast? == some '/'
    let inside := if empty then body.dropLast else body
    .ok (some (.openTag inside,
      { after with opened := tagName inside :: s.opened, closing := empty }))

/-- Reads what starts with `&`. -/
def scanReference (s : Scanner) : Scan :=
  let name := (s.rest.drop 1).takeWhile fun c => c != ';' && c != '&' && c != '<'
  match (s.rest.drop 1).drop name.length with
  | ';' :: _ => .ok (some (.reference name, s.past ('&' :: name ++ [';'])))
  | _ => .error .unclosedReference

/-- Reads the next token. -/
def next (s : Scanner) : Scan :=
  if s.closing then
    .ok (some (.closeTag, { s with closing := false, opened := s.opened.tail }))
  else
    match s.rest with
    | [] => .ok none
    | '<' :: '!' :: _ => s.scanBang
    | '<' :: '?' :: _ => s.scanInstruction
    | '<' :: '/' :: _ => s.scanClose
    | '<' :: [] => .error .unclosedTag
    | '<' :: _ => s.scanOpen
    | '&' :: _ => s.scanReference
    | r =>
      let l := r.takeWhile fun c => c != '<' && c != '&'
      .ok (some (.text l, s.past l))

/-- The tokens with their offsets, and the offset and fault where the cutting ends. -/
def run : Nat → Scanner → List (Nat × Token) × Nat × Option Fault
  | 0, s => ([], s.offset, none)
  | fuel + 1, s =>
    match s.next with
    | .error f => ([], s.offset, some f)
    | .ok none => ([], s.offset, none)
    | .ok (some (t, s')) =>
      let (ts, stop) := run fuel s'
      ((s.offset, t) :: ts, stop)

end Scanner

/-- What cutting a text gives: its tokens with the offsets where they start, and the offset where
the cutting ended, with the fault that ended it. -/
structure Tokens where
  items : List (Nat × Token)
  stop : Nat
  fault : Option Fault
deriving Repr

/-- The tokens of a text. -/
def tokens (l : List Char) : Tokens :=
  let (items, stop, fault) := Scanner.run (2 * l.length + 1) (Scanner.start l)
  ⟨items, stop, fault⟩

end Bxml.Xml
