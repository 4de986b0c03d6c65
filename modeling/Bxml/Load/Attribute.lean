import Bxml.Load.Loader
import Bxml.Text.Blank

/-!
# Attribute values

The first characters of an attribute value tell what it stands for: `${path}` is a binding, `@path`
a URL relative to the document, `%key` a value of the resource bundle, `$path` a value of the table
of ids and `$bxml:null` null. A doubled sentinel stands for itself, so that every text can be
written.
-/

namespace Bxml

/-- What an attribute value stands for. -/
inductive AttributeForm
  | literal (s : String)
  | binding (expression : String)
  | location (relative : String)
  | resource (key : String)
  | null
  | reference (path : String)
deriving DecidableEq, Repr

namespace AttributeForm

/-- The sentinels of URLs, resource keys and references. -/
def locationSentinel : Char := '@'

@[inherit_doc locationSentinel]
def resourceSentinel : Char := '%'

@[inherit_doc locationSentinel]
def referenceSentinel : Char := '$'

/-- Whether a character at the start of a value has a meaning. -/
def isSentinel (c : Char) : Bool :=
  c == locationSentinel || c == resourceSentinel || c == referenceSentinel

/-- What opens and closes a binding after the sentinel of references. -/
def bindingOpen : Char := '\x7b'

@[inherit_doc bindingOpen]
def bindingClose : Char := '\x7d'

/-- The path that stands for null. -/
def nullPath : List Char := (controlName "null").toList

/-- The text between the marks of a binding. -/
def bindingText? : List Char → Option (List Char)
  | s :: o :: r =>
    if s = referenceSentinel ∧ o = bindingOpen ∧ r.getLast? = some bindingClose then some r.dropLast
    else none
  | _ => none

/-- The form of a value after its sentinel. -/
def readAfter (sentinel : Char) (empty : StructureFault) (form : List Char → AttributeForm)
    (rest : List Char) : Except StructureFault AttributeForm :=
  match rest with
  | [] => .error empty
  | c :: r => if c = sentinel then .ok (.literal (String.ofList rest)) else .ok (form (c :: r))

/-- The form of a reference. -/
def ofReference (path : List Char) : AttributeForm :=
  if path = nullPath then .null else .reference (String.ofList path)

/-- The form of a value without the marks of a binding. -/
def readPlain (raw : List Char) : Except StructureFault AttributeForm :=
  match raw with
  | [] => .ok (.literal "")
  | c :: r =>
    if c = locationSentinel then
      readAfter c .emptyLocation (fun p => .location (String.ofList p)) r
    else if c = resourceSentinel then
      readAfter c .emptyResourceKey (fun p => .resource (String.ofList p)) r
    else if c = referenceSentinel then readAfter c .emptyReference ofReference r
    else .ok (.literal (String.ofList raw))

/-- The form of a value. -/
def read (raw : String) : Except StructureFault AttributeForm :=
  match bindingText? raw.toList with
  | some inside =>
    match Text.trimChars inside with
    | [] => .error .emptyBinding
    | expression => .ok (.binding (String.ofList expression))
  | none => readPlain raw.toList

/-- The value that stands for a literal text: a sentinel at its start is doubled. -/
def escape (s : String) : String :=
  match s.toList with
  | c :: r => if isSentinel c then String.ofList (c :: c :: r) else s
  | [] => s

/-- Every text can be written. -/
theorem read_escape (s : String) : read (escape s) = .ok (.literal s) := by
  cases hs : s.toList with
  | nil =>
    obtain rfl : s = "" := String.toList_inj.1 hs
    rfl
  | cons c r =>
    have back : String.ofList (c :: r) = s := by rw [← hs, String.ofList_toList]
    cases hc : isSentinel c with
    | true =>
      have escaped : (escape s).toList = c :: c :: r := by simp [escape, hs, hc]
      have unbound : bindingText? (c :: c :: r) = none := by
        unfold bindingText?
        refine if_neg fun h => ?_
        exact absurd (h.1.symm.trans h.2.1) (by decide)
      unfold read
      rw [escaped, unbound]
      simp only [readPlain, readAfter, if_true, back]
      simp only [isSentinel, Bool.or_eq_true, beq_iff_eq] at hc
      split
      · rfl
      · next hl =>
        split
        · rfl
        · next hr => rw [if_pos (hc.resolve_left fun h => h.elim hl hr)]
    | false =>
      have escaped : escape s = s := by simp [escape, hs, hc]
      simp only [isSentinel, Bool.or_eq_false_iff, beq_eq_false_iff_ne] at hc
      have unbound : bindingText? (c :: r) = none := by
        unfold bindingText?
        split
        · next h =>
          cases h
          exact if_neg fun h => hc.2 h.1
        · rfl
      unfold read
      rw [escaped, hs, unbound]
      simp only [readPlain, hc, if_false, back]

end AttributeForm

/-- The value of an attribute: known at once, or bound later. -/
inductive AttributeValue
  | resolved (v : Value)
  | binding (expression : String)

/-- What an attribute stands for in a document. -/
def DocumentContext.resolveForm (c : DocumentContext) :
    AttributeForm → Op LoadError AttributeValue
  | .literal s => return .resolved (.string s)
  | .binding expression => return .binding expression
  | .location relative =>
    match c.location with
    | none => throw .noBaseLocation
    | some base =>
      match base.join relative with
      | .ok u => return .resolved (.url u)
      | .error e => throw (.url relative e)
  | .resource key => do
    match ← Op.make fun w => ((c.bundle.map fun b => b.lookup key w).getD (none, w)) with
    | some v => return .resolved v
    | none =>
      Op.log .debug s!"Resource key '{key}' is undefined, using it literally"
      return .resolved (.string key)
  | .null => return .resolved .null
  | .reference path => do
    return .resolved (← (Op.check (·.resolvePath c.table path)).mapError .table)

/-- What the raw value of an attribute stands for in a document. -/
def DocumentContext.resolveAttribute (c : DocumentContext) (raw : String) (at_ : Location) :
    Op LoadError AttributeValue := do
  c.resolveForm (← (Op.ofExcept (AttributeForm.read raw)).mapError (.structural · at_))

end Bxml
