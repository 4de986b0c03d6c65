import Bxml.Proofs.Entries
import Bxml.World.Op

/-!
# Twin values

The same load in different surroundings makes objects that correspond to each other: the first to
the first, the second to the second.  Of what was there before only some objects correspond.  Twins
are two worlds at the moment from which on two loads are compared.  What is made of values that
correspond, such as texts and numbers, is the same.

* `Twins` are the two worlds with the objects that are shared between them, and `World.IsClosed` is
  what each of them has to satisfy: whatever is held in it exists.
* `SameObject` and `SameTable` are the correspondence, which is one to one (`right_unique`,
  `left_unique`), and `SameValue` extends it to values.

The modules under `Twins/` go on in the order of the program: objects, worlds, operations, changes,
writes, documents, and whole loads (`Twins/Loading.lean`).
-/

namespace Bxml

/-- Whether whatever the objects and tables of a world hold exists. -/
structure World.IsClosed (w : World) : Prop where
  objects : ∀ o p, .object p ∈ (w.object o).heldValues → p.index < w.objects.size
  tables : ∀ t p, .object p ∈ (w.table t).values → p.index < w.objects.size

theorem World.isClosed_empty : World.empty.IsClosed := by
  constructor
  · intro o p hp
    cases hp
  · intro t p hp
    cases hp

/-- Two worlds that are surroundings of the same load, and which of their objects correspond. -/
structure Twins where
  left : World
  right : World
  /-- The objects that correspond although they were there before. -/
  shared : ObjectId → ObjectId → Prop
  left_closed : left.IsClosed
  right_closed : right.IsClosed
  shared_left : ∀ {o p}, shared o p → o.index < left.objects.size
  shared_right : ∀ {o p}, shared o p → p.index < right.objects.size
  right_unique : ∀ {o p p'}, shared o p → shared o p' → p = p'
  left_unique : ∀ {o o' p}, shared o p → shared o' p → o = o'

namespace Twins

/-- Two worlds that have no object in common. -/
def apart (left right : World) (left_closed : left.IsClosed) (right_closed : right.IsClosed) :
    Twins where
  left := left
  right := right
  shared _ _ := False
  left_closed := left_closed
  right_closed := right_closed
  shared_left := False.elim
  shared_right := False.elim
  right_unique := False.elim
  left_unique := False.elim

variable (S : Twins)

/-- Whether two objects correspond: both were there before and are shared, or they were made at the
same step. -/
inductive SameObject : ObjectId → ObjectId → Prop
  | shared {o p : ObjectId} : S.shared o p → SameObject o p
  | made (k : Nat) : SameObject ⟨S.left.objects.size + k⟩ ⟨S.right.objects.size + k⟩

/-- Whether two tables were made at the same step. -/
inductive SameTable : TableId → TableId → Prop
  | made (k : Nat) : SameTable ⟨S.left.tables.size + k⟩ ⟨S.right.tables.size + k⟩

/-- Whether two results are values that are related or the same failure. -/
inductive SameResult {ε α β : Type} (R : α → β → Prop) : Except ε α → Except ε β → Prop
  | ok {a : α} {b : β} : R a b → SameResult R (.ok a) (.ok b)
  | error (e : ε) : SameResult R (.error e) (.error e)

theorem SameResult.ok_or_error {ε α β : Type} {R : α → β → Prop} {r : Except ε α}
    {r' : Except ε β} (h : SameResult R r r') :
    (∃ a b, r = .ok a ∧ r' = .ok b ∧ R a b) ∨ ∃ e, r = .error e ∧ r' = .error e := by
  cases h with
  | ok h => exact .inl ⟨_, _, rfl, rfl, h⟩
  | error e => exact .inr ⟨e, rfl, rfl⟩

/-- Whether two values correspond: they are objects that do, or equal. -/
inductive SameValue : Value → Value → Prop
  | object {o p : ObjectId} : S.SameObject o p → SameValue (.object o) (.object p)
  | scalar {v : Value} : v.object? = none → SameValue v v

/-- Whether of objects that correspond both or neither are in the lists. -/
def SameMembers (l l' : List ObjectId) : Prop :=
  ∀ ⦃o p : ObjectId⦄, S.SameObject o p → (o ∈ l ↔ p ∈ l')

variable {S}

/-! ## Objects -/

namespace SameObject

variable {o o' p p' : ObjectId}

theorem right_unique (h : S.SameObject o p) (h' : S.SameObject o p') : p = p' := by
  cases h with
  | shared h =>
    generalize ho : o = q at h'
    cases h' with
    | shared h' => exact S.right_unique h (ho ▸ h')
    | made k =>
      have := S.shared_left h
      rw [ho] at this
      exact absurd this (Nat.not_lt.2 (Nat.le_add_right _ _))
  | made k =>
    generalize ho : (⟨S.left.objects.size + k⟩ : ObjectId) = q at h'
    cases h' with
    | shared h' =>
      have := S.shared_left h'
      rw [← ho] at this
      exact absurd this (Nat.not_lt.2 (Nat.le_add_right _ _))
    | made j =>
      obtain rfl : k = j := Nat.add_left_cancel (congrArg ObjectId.index ho)
      rfl

theorem left_unique (h : S.SameObject o p) (h' : S.SameObject o' p) : o = o' := by
  cases h with
  | shared h =>
    generalize hp : p = q at h'
    cases h' with
    | shared h' => exact S.left_unique h (hp ▸ h')
    | made k =>
      have := S.shared_right h
      rw [hp] at this
      exact absurd this (Nat.not_lt.2 (Nat.le_add_right _ _))
  | made k =>
    generalize hp : (⟨S.right.objects.size + k⟩ : ObjectId) = q at h'
    cases h' with
    | shared h' =>
      have := S.shared_right h'
      rw [← hp] at this
      exact absurd this (Nat.not_lt.2 (Nat.le_add_right _ _))
    | made j =>
      obtain rfl : k = j := Nat.add_left_cancel (congrArg ObjectId.index hp)
      rfl

theorem eq_iff (h : S.SameObject o p) (h' : S.SameObject o' p') : o = o' ↔ p = p' :=
  ⟨fun e => h.right_unique (e ▸ h'), fun e => h.left_unique (e ▸ h')⟩

theorem beq_eq (h : S.SameObject o p) (h' : S.SameObject o' p') : (o == o') = (p == p') := by
  rw [Bool.eq_iff_iff, beq_iff_eq, beq_iff_eq, h.eq_iff h']

end SameObject

namespace SameMembers

variable {l l' : List ObjectId} {o p : ObjectId}

theorem nil : S.SameMembers [] [] := fun _ _ _ => by simp

theorem cons (h : S.SameMembers l l') (ho : S.SameObject o p) :
    S.SameMembers (o :: l) (p :: l') := by
  intro q r hq
  rw [List.mem_cons, List.mem_cons, h hq, hq.eq_iff ho]

theorem contains_eq (h : S.SameMembers l l') (ho : S.SameObject o p) :
    l.contains o = l'.contains p := by
  rw [Bool.eq_iff_iff, List.contains_iff_mem, List.contains_iff_mem, h ho]

theorem values (h : S.SameMembers l l') (ho : S.SameObject o p) :
    .object o ∈ l.map Value.object ↔ .object p ∈ l'.map Value.object := by
  simpa using h ho

end SameMembers

theorem SameTable.eq_iff {t t' u u' : TableId} (h : S.SameTable t u) (h' : S.SameTable t' u') :
    t = t' ↔ u = u' := by
  cases h
  cases h'
  simp

/-! ## Values -/

namespace SameValue

variable {v v' u u' : Value}

theorem null : S.SameValue .null .null := .scalar rfl

theorem bool (b : Bool) : S.SameValue (.bool b) (.bool b) := .scalar rfl

theorem int (i : Int64) : S.SameValue (.int i) (.int i) := .scalar rfl

theorem float (x : Binary64) : S.SameValue (.float x) (.float x) := .scalar rfl

theorem string (s : String) : S.SameValue (.string s) (.string s) := .scalar rfl

theorem url (u : Url) : S.SameValue (.url u) (.url u) := .scalar rfl

theorem isNull (h : S.SameValue v u) : v.isNull = u.isNull := by
  cases h <;> rfl

theorem object? (h : S.SameValue v u) : Option.Rel S.SameObject v.object? u.object? := by
  cases h with
  | object h => exact .some h
  | scalar h =>
    rw [h]
    exact .none

theorem beq_eq (h : S.SameValue v u) (h' : S.SameValue v' u') : (v == v') = (u == u') := by
  have object_scalar {o : ObjectId} {x : Value} (hx : x.object? = none) :
      (Value.object o == x) = false := by
    cases x <;> first | rfl | cases hx
  cases h with
  | object h =>
    cases h' with
    | object h' => exact h.beq_eq h'
    | scalar hx => rw [object_scalar hx, object_scalar hx]
  | scalar hy =>
    cases h' with
    | object h' =>
      rw [Value.beq_comm, object_scalar hy, Value.beq_comm, object_scalar hy]
    | scalar hx => rfl

theorem text {f g : ObjectId → String} (hf : ∀ o p, S.SameObject o p → f o = g p)
    (h : S.SameValue v u) : v.text f = u.text g := by
  cases h with
  | object h => exact congrArg (fun s => s!"[{s}]") (hf _ _ h)
  | @scalar v h => cases v <;> first | rfl | cases h

theorem read? (t : ValueType) (s : String) :
    Option.Rel S.SameValue (t.read? s) (t.read? s) := by
  cases t <;> simp only [ValueType.read?]
  case any => exact .some (.string s)
  case bool =>
    split
    · exact .some (.bool _)
    · split
      · exact .some (.bool _)
      · exact .none
  case int =>
    cases Text.readInt64? (Text.trimChars s.toList) with
    | none => exact .none
    | some i => exact .some (.int i)
  case float =>
    cases Binary64.ofText? (Text.trimChars s.toList) with
    | none => exact .none
    | some x => exact .some (.float x)
  case string => exact .some (.string s)
  case url =>
    cases (Url.parse (String.ofList (Text.trimChars s.toList))).toOption with
    | none => exact .none
    | some u => exact .some (.url u)
  case object => exact .none

theorem convert? {f g : ObjectId → String} (t : ValueType) (h : S.SameValue v u) :
    Option.Rel S.SameValue (t.convert? f v) (t.convert? g u) := by
  cases h with
  | object h => cases t <;> first | exact .none | exact .some (.object h)
  | @scalar v h =>
    have text : v.text f = v.text g := by cases v <;> first | rfl | cases h
    cases v with
    | object o => cases h
    | string s =>
      cases t <;> simp only [ValueType.convert?, text]
      case any => exact .some (.string s)
      case string => exact .some (.string _)
      all_goals exact read? _ s
    | _ =>
      cases t <;> simp only [ValueType.convert?, text] <;>
        first | exact .none | exact .some (.scalar rfl)

theorem coerce {f g : ObjectId → String} (hf : ∀ o p, S.SameObject o p → f o = g p) (t : ValueType)
    (property : String) (h : S.SameValue v u) :
    SameResult S.SameValue (t.coerce f property v) (t.coerce g property u) := by
  unfold ValueType.coerce
  rw [h.text hf]
  obtain ⟨hv, hu⟩ | ⟨a, b, hv, hu, hab⟩ := (h.convert? (f := f) (g := g) t).none_or_some
  · rw [hv, hu]
    exact .error _
  · rw [hv, hu]
    exact .ok hab

end SameValue

end Twins

end Bxml
