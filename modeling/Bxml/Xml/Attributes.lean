import Bxml.Xml.Unescape

/-!
# Attributes of a tag

The inside of a tag is its name, up to the first blank, and then attributes: a key, an equals sign
and a quoted value, with blanks allowed between the three and not needed between attributes.
-/

namespace Bxml.Xml

/-- Whether `c` separates the parts of a tag. -/
def isTagBlank (c : Char) : Bool := c == ' ' || c == '\t' || c == '\n' || c == '\r'

/-- The name in the inside of a tag. -/
def tagName (tag : List Char) : List Char := tag.takeWhile fun c => !isTagBlank c

/-- A key and its value, still escaped. -/
structure Attribute where
  key : List Char
  value : List Char
deriving DecidableEq, Repr

/-- What reading one attribute leaves: the attribute, or why there is none, the offset after it and
the rest. -/
inductive AttributeStep
  | done
  | fault (f : AttributeFault)
  | next (key value : List Char) (position offset : Nat) (rest : List Char)

/-- Reads a quoted value. -/
def readValue (total : Nat) (key : List Char) (position offset : Nat) (l : List Char) :
    AttributeStep :=
  let blanks := l.takeWhile isTagBlank
  let offset := offset + blanks.length
  match l.drop blanks.length with
  | [] => .fault (.expectedValue total)
  | q :: r =>
    if q == '"' || q == '\'' then
      let value := r.takeWhile (· != q)
      match r.drop value.length with
      | [] => .fault (.expectedQuote total q)
      | _ :: rest => .next key value position (offset + byteSize value + 2) rest
    else .fault (.unquoted offset)

/-- Reads one attribute from `offset` on, in a tag of `total` bytes. `seen` lists the keys before it
and where they stand. -/
def readAttribute (total : Nat) (seen : List (List Char × Nat)) (offset : Nat) (l : List Char) :
    AttributeStep :=
  let blanks := l.takeWhile isTagBlank
  let position := offset + blanks.length
  match l.drop blanks.length with
  | [] => .done
  | c :: r =>
    let more := r.takeWhile fun c => c != '=' && !isTagBlank c
    let key := c :: more
    let offset := position + byteSize key
    let afterKey := r.drop more.length
    let gap := afterKey.takeWhile isTagBlank
    match afterKey.drop gap.length with
    | [] => .fault (.expectedEquals total)
    | e :: rest =>
      if e != '=' then .fault (.expectedEquals (offset + gap.length))
      else
        match seen.lookup key with
        | some previous => .fault (.duplicated position previous)
        | none => readValue total key position (offset + gap.length + 1) rest

/-- Reads attributes until there are no more, unescaping each value in turn. -/
def readAttributes (total : Nat) :
    Nat → List (List Char × Nat) → Nat → List Char → Except Fault (List Attribute)
  | 0, _, _, _ => .ok []
  | fuel + 1, seen, offset, l =>
    match readAttribute total seen offset l with
    | .done => .ok []
    | .fault f => .error (.attribute f)
    | .next key value position offset rest => do
      let value ← (unescape value).mapError .escape
      return ⟨key, value⟩ :: (← readAttributes total fuel ((key, position) :: seen) offset rest)

/-- The attributes in the inside of a tag, in order and unescaped. -/
def attributes (tag : List Char) : Except Fault (List Attribute) :=
  let name := tagName tag
  readAttributes (byteSize tag) tag.length [] (byteSize name) (tag.drop name.length)

end Bxml.Xml
