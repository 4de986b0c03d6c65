import Bxml.Proofs.Twins.Drafts

/-!
# A world beside itself

Two loads in the same world may do the same although they come to it by different ways.  They are
compared with every object and every table standing for itself: then worlds that are the same differ
at most in the trace.

`itself` are these twins: two empty worlds, so that all objects count as made since.  What
corresponds is equal (`sameValue_itself`, `sameTable_itself`), worlds are the same if they agree
(`sameWorld_itself`, `World.Agrees`), and what is held is the same if it has the same members
(`sameHeld_itself`).
-/

namespace Bxml

/-- Whether two worlds differ at most in what was recorded. -/
structure World.Agrees (w w' : World) : Prop where
  objects : w.objects = w'.objects
  tables : w.tables = w'.tables

namespace Twins

/-- Two empty worlds: all objects and tables are made, on both sides at the same step. -/
def itself : Twins :=
  apart .empty .empty World.isClosed_empty World.isClosed_empty

theorem sameObject_itself {o p : ObjectId} : itself.SameObject o p ↔ o = p := by
  constructor
  · intro h
    cases h with
    | shared h => exact h.elim
    | made k => rfl
  · rintro rfl
    have made := SameObject.made (S := itself) o.index
    rwa [show itself.left.objects.size + o.index = o.index from Nat.zero_add _,
      show itself.right.objects.size + o.index = o.index from Nat.zero_add _] at made

theorem sameTable_itself {t u : TableId} : itself.SameTable t u ↔ t = u := by
  constructor
  · intro h
    cases h with
    | made k => rfl
  · rintro rfl
    have made := SameTable.made (S := itself) t.index
    rwa [show itself.left.tables.size + t.index = t.index from Nat.zero_add _,
      show itself.right.tables.size + t.index = t.index from Nat.zero_add _] at made

theorem sameValue_itself {v u : Value} : itself.SameValue v u ↔ v = u := by
  constructor
  · intro h
    cases h with
    | object h => rw [sameObject_itself.1 h]
    | scalar h => rfl
  · rintro rfl
    cases v with
    | object o => exact .object (sameObject_itself.2 rfl)
    | _ => exact .scalar rfl

theorem forall₂_itself {α : Type} {R : α → α → Prop} (h : ∀ a b, R a b ↔ a = b) {l l' : List α} :
    List.Forall₂ R l l' ↔ l = l' := by
  obtain rfl : R = Eq := funext fun a => funext fun b => propext (h a b)
  rw [List.forall₂_eq_eq_eq]

theorem rel_itself {α : Type} {R : α → α → Prop} (h : ∀ a b, R a b ↔ a = b) {m m' : Entries α} :
    Entries.Rel R m m' ↔ m = m' := by
  unfold Entries.Rel
  rw [forall₂_itself fun p q => by rw [h, Prod.ext_iff]]
  exact ⟨fun h => by cases m; cases m'; cases h; rfl, congrArg _⟩

theorem option_itself {α : Type} {R : α → α → Prop} (h : ∀ a b, R a b ↔ a = b) {a b : Option α} :
    Option.Rel R a b ↔ a = b := by
  cases a <;> cases b <;> simp [h]

/-! ## Objects -/

theorem sameBinding_itself {b b' : Binding} : itself.SameBinding b b' ↔ b = b' := by
  constructor
  · rintro ⟨hs, hsk, ht, htk, hm⟩
    cases b
    cases b'
    cases sameObject_itself.1 hs
    cases sameObject_itself.1 ht
    cases hsk
    cases htk
    cases hm
    rfl
  · rintro rfl
    exact ⟨sameObject_itself.2 rfl, rfl, sameObject_itself.2 rfl, rfl, rfl⟩

theorem sameSubscriber_itself {s s' : Subscriber} : itself.SameSubscriber s s' ↔ s = s' := by
  constructor
  · intro h
    cases h with
    | binding h => rw [sameBinding_itself.1 h]
    | watcher label => rfl
  · rintro rfl
    cases s with
    | binding b => exact .binding (sameBinding_itself.2 rfl)
    | watcher label => exact .watcher label

theorem sameListener_itself {x x' : Listener} : itself.SameListener x x' ↔ x = x' := by
  constructor
  · intro h
    cases h with
    | constant h => rw [sameValue_itself.1 h]
    | failing message => rfl
    | adapter a => rfl
    | @script e e' h =>
      obtain ⟨hi, he, hv, hs, ht⟩ := h
      cases e
      cases e'
      cases (option_itself fun _ _ => sameTable_itself).1 ht
      cases hi
      cases he
      cases hv
      cases hs
      rfl
  · rintro rfl
    cases x with
    | constant v => exact .constant (sameValue_itself.2 rfl)
    | failing message => exact .failing message
    | adapter a => exact .adapter a
    | script e =>
      exact .script ⟨rfl, rfl, rfl, rfl, (option_itself fun _ _ => sameTable_itself).2 rfl⟩

theorem sameSlot_itself {s s' : Slot} : itself.SameSlot s s' ↔ s = s' := by
  constructor
  · intro h
    cases h with
    | writable t h => rw [sameValue_itself.1 h]
    | readOnly h => rw [sameValue_itself.1 h]
    | @listeners l l' h =>
      obtain ⟨hi, hl⟩ := h
      cases l
      cases l'
      cases (forall₂_itself fun _ _ => sameListener_itself).1 hl
      cases hi
      rfl
  · rintro rfl
    cases s with
    | writable t v => exact .writable t (sameValue_itself.2 rfl)
    | readOnly v => exact .readOnly (sameValue_itself.2 rfl)
    | listeners l => exact .listeners ⟨rfl, (forall₂_itself fun _ _ => sameListener_itself).2 rfl⟩

theorem sameContent_itself {c c' : Content} : itself.SameContent c c' ↔ c = c' := by
  constructor
  · intro h
    cases h with
    | @bean b b' h =>
      obtain ⟨ht, hd, hi, hs⟩ := h
      cases b
      cases b'
      cases (rel_itself fun _ _ => sameSlot_itself).1 hs
      cases ht
      cases hd
      cases hi
      rfl
    | @dictionary d d' h =>
      obtain ⟨ht, he, hh⟩ := h
      cases d
      cases d'
      cases (rel_itself fun _ _ => sameValue_itself).1 he
      cases ht
      cases hh
      rfl
    | list h => rw [(forall₂_itself fun _ _ => sameValue_itself).1 h]
  · rintro rfl
    cases c with
    | bean b => exact .bean ⟨rfl, rfl, rfl, (rel_itself fun _ _ => sameSlot_itself).2 rfl⟩
    | dictionary d => exact .dictionary ⟨rfl, (rel_itself fun _ _ => sameValue_itself).2 rfl, rfl⟩
    | list l => exact .list ((forall₂_itself fun _ _ => sameValue_itself).2 rfl)

theorem sameState_itself {x x' : Object} : itself.SameState x x' ↔ x = x' := by
  have subscription (p q : String × Subscriber) : itself.SameSubscription p q ↔ p = q := by
    unfold SameSubscription
    rw [sameSubscriber_itself, Prod.ext_iff]
  constructor
  · rintro ⟨hc, hs⟩
    cases x
    cases x'
    cases sameContent_itself.1 hc
    cases (forall₂_itself subscription).1 hs
    rfl
  · rintro rfl
    exact ⟨sameContent_itself.2 rfl, (forall₂_itself subscription).2 rfl⟩

/-! ## Worlds -/

theorem sameWorld_itself {w w' : World} : itself.SameWorld w w' ↔ w.Agrees w' := by
  constructor
  · intro h
    obtain ⟨k, hk, hk'⟩ := h.size
    obtain ⟨j, hj, hj'⟩ := h.tablesSize
    constructor
    · refine Array.ext (hk.trans hk'.symm) fun i hi hi' => ?_
      have same := sameState_itself.1 (h.object (sameObject_itself.2 (rfl : (⟨i⟩ : ObjectId) = _)))
      unfold World.object at same
      simpa [hi, hi'] using same
    · refine Array.ext (hj.trans hj'.symm) fun i hi hi' => ?_
      have same := (rel_itself fun _ _ => sameValue_itself).1
        (h.table (sameTable_itself.2 (rfl : (⟨i⟩ : TableId) = _)))
      unfold World.table at same
      simpa [hi, hi'] using same
  · intro h
    have object (o : ObjectId) : w.object o = w'.object o := by
      unfold World.object
      rw [h.objects]
    have table (t : TableId) : w.table t = w'.table t := by
      unfold World.table
      rw [h.tables]
    constructor
    · exact ⟨w.objects.size, (Nat.zero_add _).symm, by rw [h.objects]; exact (Nat.zero_add _).symm⟩
    · exact ⟨w.tables.size, (Nat.zero_add _).symm, by rw [h.tables]; exact (Nat.zero_add _).symm⟩
    · rintro o p ho
      obtain rfl := sameObject_itself.1 ho
      exact sameState_itself.2 (object o)
    · rintro t u ht
      obtain rfl := sameTable_itself.1 ht
      exact (rel_itself fun _ _ => sameValue_itself).2 (table t)
    · exact fun hi => absurd hi (Nat.not_lt_zero _)
    · exact fun hi => absurd hi (Nat.not_lt_zero _)
    · exact fun hi => absurd hi (Nat.not_lt_zero _)
    · exact fun hi => absurd hi (Nat.not_lt_zero _)

theorem sameHeld_itself {h h' : Held} (hv : ∀ o, .object o ∈ h.values ↔ .object o ∈ h'.values)
    (ht : ∀ t, t ∈ h.tables ↔ t ∈ h'.tables) : itself.SameHeld h h' where
  values ho := by
    obtain rfl := sameObject_itself.1 ho
    exact hv _
  tables hu := by
    obtain rfl := sameTable_itself.1 hu
    exact ht _
  shared ho := ho.elim

theorem sameMembers_itself (l : List ObjectId) : itself.SameMembers l l := by
  intro o p ho
  rw [sameObject_itself.1 ho]

theorem sameBundle_itself (b : Bundle) : itself.SameBundle b b := by
  refine List.forall₂_same.2 fun x _ => ?_
  cases x with
  | map m => exact .map ((rel_itself fun _ _ => sameValue_itself).2 rfl)
  | json fields => exact .json fields

/-- A document knows the same of its surroundings as itself. -/
theorem sameContext_itself (c : DocumentContext) (parented : List ObjectId) :
    itself.SameContext (.bare parented) c c where
  table := sameTable_itself.2 rfl
  bundle := by
    cases c.bundle with
    | none => exact .none
    | some b => exact .some (sameBundle_itself b)
  held := sameHeld_itself (fun _ => Iff.rfl) fun _ => Iff.rfl
  location := rfl

end Twins

end Bxml
