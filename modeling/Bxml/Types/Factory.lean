import Bxml.Propagation

/-!
# Type factories

A factory makes the objects that elements stand for, and stores properties that one type attaches to
objects of another.
-/

namespace Bxml

/-- Why a factory cannot make an object or attach a property. -/
inductive FactoryError
  | unknownType (typeName : String)
  | construction (typeName text : String)
  | unknownAttached (owner property : String)
  | property (e : PropertyError)
deriving DecidableEq, Repr

/-- The wording of a factory error. -/
def FactoryError.message : FactoryError → String
  | .unknownType typeName => s!"Unknown type '{typeName}'"
  | .construction typeName text => s!"Failed to construct '{typeName}': {text}"
  | .unknownAttached owner name => s!"'{owner}' has no attached property '{name}'"
  | .property e => e.message

/-- What makes a new object. -/
abbrev Constructor := Op FactoryError ObjectId

/-- What stores an attached property on an object. -/
abbrev AttachedSetter := Held → ObjectId → Value → Op PropertyError Unit

/-- A factory. -/
structure TypeFactory where
  construct : String → Constructor
  /-- Sets a property that the type named first defines for objects of other types. -/
  attach : Held → String → String → ObjectId → Value → Op FactoryError Unit

/-- The name that qualifies a property by the type that attaches it. -/
def qualified (owner property : String) : String := owner ++ "." ++ property

/-- A name divided at its last dot. -/
def splitQualified? (name : String) : Option (String × String) :=
  let property := name.toList.reverse.takeWhile (· != pathSeparator)
  match name.toList.reverse.drop property.length with
  | _ :: owner => some (String.ofList owner.reverse, String.ofList property.reverse)
  | [] => none

theorem toList_qualified (owner property : String) :
    (qualified owner property).toList = owner.toList ++ pathSeparator :: property.toList := by
  unfold qualified
  rw [String.toList_append, String.toList_append, List.append_assoc]
  rfl

/-- What stands before the first occurrence of a character. -/
theorem takeWhile_bne_append {a : Char} {l : List Char} (h : a ∉ l) (r : List Char) :
    (l ++ a :: r).takeWhile (· != a) = l := by
  have front : ∀ b ∈ l, (b != a) = true := fun b hb => bne_iff_ne.2 fun e => h (e ▸ hb)
  rw [List.takeWhile_append_of_pos front, List.takeWhile_cons_of_neg (by simp), List.append_nil]

/-- A qualified name can be told apart at its last dot, whatever dots the type has. -/
theorem splitQualified?_qualified (owner : String) {property : String}
    (h : pathSeparator ∉ property.toList) :
    splitQualified? (qualified owner property) = some (owner, property) := by
  have reversed : (qualified owner property).toList.reverse =
      property.toList.reverse ++ pathSeparator :: owner.toList.reverse := by
    rw [toList_qualified, List.reverse_append, List.reverse_cons, List.append_assoc,
      List.singleton_append]
  unfold splitQualified?
  rw [reversed, takeWhile_bne_append (fun hm => h (List.mem_reverse.1 hm))]
  dsimp only
  rw [List.drop_left]
  dsimp only
  rw [List.reverse_reverse, List.reverse_reverse, String.ofList_toList, String.ofList_toList]

/-- Makes a dictionary for every type name, and stores attached properties in dictionaries under
their qualified name. -/
def TypeFactory.dictionaries (host : Host) : TypeFactory where
  construct typeName := Op.make (·.alloc (.emptyDictionary typeName))
  attach h owner property o v := do
    let x ← Op.read (·.object o)
    match x.dictionary? with
    | some _ => (host.setProperty h o (qualified owner property) v).mapError .property
    | none => throw (.unknownAttached owner property)

end Bxml
