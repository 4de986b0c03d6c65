import Bxml.Binary64.Text
import Bxml.Text.Decimal
import Bxml.Text.Quoted
import Bxml.Url.Basic
import Bxml.Vote

/-!
# Values

What flows between markup, objects and scripts. Objects are equal when they are the same object,
floating point numbers when they are numerically equal, and URLs when their texts are.
-/

namespace Bxml

/-- The identity of an object. -/
structure ObjectId where
  index : Nat
deriving DecidableEq, Repr, Inhabited

/-- The identity of a table of ids. -/
structure TableId where
  index : Nat
deriving DecidableEq, Repr, Inhabited

/-- A value. -/
inductive Value
  | null
  | bool (b : Bool)
  | int (i : Int64)
  | float (x : Binary64)
  | string (s : String)
  | url (u : Url)
  | vote (v : Vote)
  | object (o : ObjectId)
deriving Repr, Inhabited, DecidableEq

namespace Value

/-- Whether two values are equal. -/
def same : Value → Value → Bool
  | .null, .null => true
  | .bool a, .bool b => a == b
  | .int a, .int b => a == b
  | .float a, .float b => a == b
  | .string a, .string b => a == b
  | .url a, .url b => a == b
  | .vote a, .vote b => a == b
  | .object a, .object b => a == b
  | _, _ => false

instance : BEq Value := ⟨same⟩

def isNull : Value → Bool
  | .null => true
  | _ => false

def string? : Value → Option String
  | .string s => some s
  | _ => none

def bool? : Value → Option Bool
  | .bool b => some b
  | _ => none

def int? : Value → Option Int64
  | .int i => some i
  | _ => none

/-- A floating point number, or a whole number as one. -/
def float? : Value → Option Binary64
  | .float x => some x
  | .int i => some (Binary64.ofInt i.toInt)
  | _ => none

def vote? : Value → Option Vote
  | .vote v => some v
  | _ => none

def object? : Value → Option ObjectId
  | .object o => some o
  | _ => none

/-- The word for a kind of value. -/
def kind : Value → String
  | .null => "null"
  | .bool _ => "bool"
  | .int _ => "int"
  | .float _ => "float"
  | .string _ => "string"
  | .url _ => "url"
  | .vote _ => "vote"
  | .object _ => "object"

/-- The text of a truth value. -/
def boolText (b : Bool) : String := if b then "true" else "false"

/-- The text of a value; `typeName` names the types of objects. -/
def text (typeName : ObjectId → String) : Value → String
  | .null => "null"
  | .bool b => boolText b
  | .int i => Text.writeInt64 i
  | .float x => x.toText
  | .string s => s
  | .url u => u.text
  | .vote v => v.text
  | .object o => s!"[{typeName o}]"

/-- A value with its kind, as it is shown to people who look for faults. -/
def inspect (typeName : ObjectId → String) : Value → String
  | .null => "Null"
  | .bool b => s!"Bool({boolText b})"
  | .int i => s!"Int({Text.writeInt64 i})"
  | .float x => s!"Float({x.toText})"
  | .string s => s!"String({Text.quoted s})"
  | .url u => s!"Url({u.text})"
  | .vote v => s!"Vote({v.text})"
  | .object o => s!"Object({typeName o} @ 0x{String.ofList (Nat.toDigits 16 (16 * o.index + 16))})"

theorem object?_eq_some {v : Value} {o : ObjectId} : v.object? = some o ↔ v = .object o := by
  cases v <;> simp [object?]

theorem beq_comm (v w : Value) : (v == w) = (w == v) := by
  change same v w = same w v
  cases v <;> cases w <;> simp only [same]
  case float x y => exact Binary64.beq_comm x y
  case url u v =>
    change (u.chars == v.chars) = (v.chars == u.chars)
    exact BEq.comm
  all_goals exact BEq.comm

/-- Whether a value is no NaN. -/
def isNumberOrOther : Value → Bool
  | .float x => !x.isNaN
  | _ => true

theorem beq_self {v : Value} (h : v.isNumberOrOther = true) : (v == v) = true := by
  change same v v = true
  cases v <;> simp only [same, BEq.rfl]
  case float x => exact Binary64.beq_self (by simpa [isNumberOrOther] using h)
  case url u =>
    change (u.chars == u.chars) = true
    exact BEq.rfl

/-- Equality is transitive. -/
theorem beq_trans {u v w : Value} (h : (u == v) = true) (k : (v == w) = true) :
    (u == w) = true := by
  change same u v = true at h
  change same v w = true at k
  change same u w = true
  cases u <;> cases v <;> simp only [same, Bool.false_eq_true] at h <;>
    cases w <;> simp only [same, Bool.false_eq_true] at k ⊢
  case float.float.float x y z => exact Binary64.beq_trans h k
  case url.url.url a b c =>
    change (a.chars == c.chars) = true
    change (a.chars == b.chars) = true at h
    change (b.chars == c.chars) = true at k
    rw [beq_iff_eq] at h k ⊢
    rw [h, k]
  all_goals
    rw [beq_iff_eq] at h k ⊢
    rw [h, k]

end Value

end Bxml
