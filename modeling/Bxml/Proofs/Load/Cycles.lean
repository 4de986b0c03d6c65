import Bxml.Proofs.Load.Parents
import Mathlib.Data.List.Induction
import Mathlib.Logic.Relation

/-!
# Cycles

What a load hands over makes one object the parent of another.  Nothing in the load forbids that an
object comes to lie below itself: a reference opens an object that has parents above it, and if the
topmost of them has no parent yet, it may be composed into the reference.  `acyclic_iff` says that
this is the only way to a cycle: parents and children form a forest exactly when no object is handed
to something that lies below it, which one finds out by climbing from the receiver to the top.

A `Bond` is a parent and its child; `bonds` reads them off the moments of a load, and `Acyclic` says
that nobody is below itself.  `topmost` climbs, bond by bond, and is a function.  That each child
has one parent (`Load/Parents.lean`) makes it the only way up (`topmost_eq`), so that `Grown` can be
decided bond by bond (`acyclic_iff_grown`).  `cyclic_load` is a load with a cycle.
-/

namespace Bxml

/-- A parent and its child. -/
abbrev Bond := ObjectId × ObjectId

/-- The object that an offer makes a parent. A property element stands for the object it is a
property of. -/
def Offer.parent? (x : Offer) : Option ObjectId :=
  match x.receiver with
  | .object o => some o
  | .element => owner? x.closing.outer.tail

/-- The parent and the child that an event brings together. -/
def Moment.bond? (l : Loader) (m : Moment) : Option Bond :=
  (m.handOver? l).bind fun x => x.parent?.map fun p => (p, x.child)

/-- The parents with their children that some moments bring together, in their order. -/
def bonds (l : Loader) (ms : List Moment) : List Bond := ms.filterMap (Moment.bond? l)

/-- Whether an object is the parent of another. -/
def IsParent (bs : List Bond) (p o : ObjectId) : Prop := (p, o) ∈ bs

/-- Whether no object lies below itself. -/
def Acyclic (bs : List Bond) : Prop := ∀ o, ¬ Relation.TransGen (IsParent bs) o o

/-- The topmost object above another. The latest bonds come first; one that was formed later leads
on from where the earlier ones end. -/
def topmost : List Bond → ObjectId → ObjectId
  | [], o => o
  | (p, child) :: older, o =>
    let top := topmost older o
    if top = child then topmost older p else top

/-- Whether each of the bonds, the latest of which come first, joins a child to something that does
not lie below it. -/
def Grown : List Bond → Prop
  | [] => True
  | (p, o) :: older => topmost older p ≠ o ∧ Grown older

variable {l : Loader} {bs : List Bond} {p o a b : ObjectId}

/-! ## Climbing -/

theorem isParent_cons : IsParent ((p, o) :: bs) a b ↔ (a = p ∧ b = o) ∨ IsParent bs a b := by
  simp [IsParent]

/-- A way down that may use a bond uses it first at some time, and last at some time. -/
theorem descends_cons (h : Relation.ReflTransGen (IsParent ((p, o) :: bs)) a b) :
    Relation.ReflTransGen (IsParent bs) a b ∨
      Relation.ReflTransGen (IsParent bs) a p ∧ Relation.ReflTransGen (IsParent bs) o b := by
  induction h with
  | refl => exact .inl .refl
  | tail _ hb ih =>
    rcases isParent_cons.1 hb with ⟨rfl, rfl⟩ | hb
    · rcases ih with ih | ih
      · exact .inr ⟨ih, .refl⟩
      · exact .inr ⟨ih.1, .refl⟩
    · rcases ih with ih | ih
      · exact .inl (ih.tail hb)
      · exact .inr ⟨ih.1, ih.2.tail hb⟩

theorem descends_of_older (h : Relation.ReflTransGen (IsParent bs) a b) :
    Relation.ReflTransGen (IsParent ((p, o) :: bs)) a b :=
  Relation.ReflTransGen.mono (fun _ _ hb => isParent_cons.2 (.inr hb)) _ _ h

/-- The topmost object lies above. -/
theorem topmost_descends (bs : List Bond) (a : ObjectId) :
    Relation.ReflTransGen (IsParent bs) (topmost bs a) a := by
  induction bs generalizing a with
  | nil => exact .refl
  | cons b bs ih =>
    obtain ⟨p, o⟩ := b
    rw [topmost]
    split
    · next h =>
      have hp := descends_of_older (p := p) (o := o) (ih p)
      have ha := descends_of_older (p := p) (o := o) (ih a)
      rw [h] at ha
      exact (hp.tail (isParent_cons.2 (.inl ⟨rfl, rfl⟩))).trans ha
    · exact descends_of_older (ih a)

/-- Where each object has one parent, an object without a parent is the topmost above all objects
that lie below it. -/
theorem topmost_eq (hb : (bs.map Prod.snd).Nodup) (ha : a ∉ bs.map Prod.snd)
    (h : Relation.ReflTransGen (IsParent bs) a b) : topmost bs b = a := by
  induction bs generalizing a b with
  | nil =>
    rcases h.cases_tail with rfl | ⟨_, _, h⟩
    · rfl
    · cases h
  | cons x bs ih =>
    obtain ⟨p, o⟩ := x
    rw [List.map_cons, List.nodup_cons] at hb
    rw [List.map_cons, List.mem_cons, not_or] at ha
    rw [topmost]
    rcases descends_cons h with h | ⟨hp, ho⟩
    · rw [ih hb.2 ha.2 h, if_neg ha.1]
    · rw [ih hb.2 hb.1 ho, if_pos rfl]
      exact ih hb.2 ha.2 hp

/-- Where each object has one parent, there is no cycle exactly when no child was joined to something
below it. -/
theorem acyclic_iff_grown (hb : (bs.map Prod.snd).Nodup) : Acyclic bs ↔ Grown bs := by
  induction bs with
  | nil =>
    refine ⟨fun _ => trivial, fun _ o h => ?_⟩
    obtain ⟨_, h, -⟩ := Relation.TransGen.head'_iff.1 h
    cases h
  | cons x bs ih =>
    obtain ⟨p, o⟩ := x
    rw [List.map_cons, List.nodup_cons] at hb
    have older := ih hb.2
    constructor
    · intro h
      refine ⟨fun hp => ?_, older.1 fun a ha => ?_⟩
      · have top := descends_of_older (p := p) (o := o) (topmost_descends bs p)
        rw [hp] at top
        exact h p (.head' (isParent_cons.2 (.inl ⟨rfl, rfl⟩)) top)
      · exact h a (Relation.TransGen.mono (fun _ _ hb => isParent_cons.2 (.inr hb)) _ _ ha)
    · rintro ⟨hp, h⟩ a ha
      -- the cycle uses the latest bond, so that its parent lies below its child
      have hop : Relation.ReflTransGen (IsParent bs) o p := by
        obtain ⟨b, hab, hba⟩ := Relation.TransGen.head'_iff.1 ha
        rcases isParent_cons.1 hab with ⟨rfl, rfl⟩ | hab
        · rcases descends_cons hba with hba | hba
          · exact hba
          · exact hba.2
        · rcases descends_cons hba with hba | hba
          · exact absurd (.head' hab hba) (older.2 h a)
          · exact (hba.2.tail hab).trans hba.1
      exact hp (topmost_eq hb.2 hb.1 hop)

/-! ## The bonds of a load -/

theorem Moment.bond?_eq_some {m : Moment} (h : m.bond? l = some (p, o)) : m.handed? l = some o := by
  obtain ⟨x, hx, h⟩ := Option.bind_eq_some_iff.1 h
  obtain ⟨_, -, h⟩ := Option.map_eq_some_iff.1 h
  cases h
  simp [handed?, hx]

/-- The children are objects that were handed over. -/
theorem children_sublist (l : Loader) (ms : List Moment) :
    ((bonds l ms).map Prod.snd).Sublist (handed l ms) := by
  induction ms with
  | nil => exact .refl _
  | cons m ms ih =>
    rw [handed_cons]
    unfold bonds at ih ⊢
    cases hm : m.bond? l with
    | none =>
      rw [List.filterMap_cons_none hm]
      exact ih.trans (List.sublist_append_right _ _)
    | some b =>
      rw [List.filterMap_cons_some hm, Moment.bond?_eq_some hm]
      exact ih.cons_cons _

theorem bonds_append (ms ns : List Moment) : bonds l (ms ++ ns) = bonds l ms ++ bonds l ns :=
  List.filterMap_append

/-- The bonds of some moments are told by those of each of them and the moments before it. -/
theorem grown_bonds (ms : List Moment) :
    Grown (bonds l ms).reverse ↔ ∀ before m after p o, ms = before ++ m :: after →
      m.bond? l = some (p, o) → topmost (bonds l before).reverse p ≠ o := by
  induction ms using List.reverseRecOn with
  | nil => simp [bonds, Grown]
  | append_singleton ms m ih =>
    have last : Grown (bonds l (ms ++ [m])).reverse ↔
        (∀ p o, m.bond? l = some (p, o) → topmost (bonds l ms).reverse p ≠ o) ∧
          Grown (bonds l ms).reverse := by
      rw [bonds_append, List.reverse_append]
      cases hm : m.bond? l with
      | none => simp [bonds, hm]
      | some b =>
        obtain ⟨p, o⟩ := b
        simp [bonds, hm, Grown]
    rw [last, ih]
    constructor
    · rintro ⟨hm, hms⟩ before m' after p o h
      rcases List.eq_nil_or_concat after with rfl | ⟨after, m'', rfl⟩
      · obtain ⟨rfl, hm'⟩ := List.append_inj' h rfl
        cases hm'
        exact hm p o
      · rw [List.concat_eq_append, ← List.cons_append, ← List.append_assoc] at h
        exact hms before m' after p o (List.append_inj' h rfl).1
    · intro h
      refine ⟨fun p o => h ms m [] p o rfl, fun before m' after p o hs => ?_⟩
      exact h before m' (after ++ [m]) p o (by rw [hs]; simp)

/-- What a load composes has no cycle exactly when no object is handed to something that lies below
it, as the topmost object there. Where that happens, the receiver is the object itself or has a
parent already, and the object has none. -/
theorem acyclic_iff (l : Loader) (c : DocumentContext) (source : String) (w : World) :
    (Acyclic (bonds l (l.moments c source w)) ↔
      ∀ before m after p o, l.moments c source w = before ++ m :: after →
        m.bond? l = some (p, o) → topmost (bonds l before).reverse p ≠ o) ∧
    ∀ before m after p o, l.moments c source w = before ++ m :: after → m.bond? l = some (p, o) →
      topmost (bonds l before).reverse p = o →
        o ∉ handed l before ∧ (p = o ∨ p ∈ handed l before) := by
  have once := handed_nodup l c source w
  refine ⟨?grown, ?first⟩
  case grown =>
    have children := once.sublist (children_sublist l (l.moments c source w))
    rw [← grown_bonds, ← acyclic_iff_grown (by simpa using children)]
    unfold Acyclic IsParent
    simp only [List.mem_reverse]
  case first =>
    intro before m after p o hs hm ht
    have ho : o ∉ handed l before := by
      rw [hs, handed_append, handed_cons, Moment.bond?_eq_some hm] at once
      exact fun h => (List.nodup_append.1 once).2.2 o h o (by simp) rfl
    refine ⟨ho, ?_⟩
    have top := topmost_descends (bonds l before).reverse p
    rw [ht] at top
    rcases top.cases_tail with rfl | ⟨q, -, hq⟩
    · exact .inl rfl
    · refine .inr ((children_sublist l before).subset ?_)
      exact List.mem_map.2 ⟨(q, p), List.mem_reverse.1 hq, rfl⟩

/-- A reference inside a reference to the same object. Neither has a parent, since both stand in a
definition. -/
def selfReference : String :=
  "<A><bxml:define><A bxml:id='a'/><bxml:reference id='a'><x><bxml:reference id='a'/></x>" ++
    "</bxml:reference></bxml:define></A>"

/-- An object that is composed into itself is loaded, and has itself as a property. -/
theorem cyclic_load :
    let c : DocumentContext := ⟨none, ⟨0⟩, none, 0, .nothing⟩
    let w := (World.empty.allocTable .empty).2
    let loaded := (Loader.plain.loadOuter c selfReference).runIn w
    loaded.1.isOk = true ∧ (loaded.2.object ⟨1⟩).heldValues = [.object ⟨1⟩] ∧
      ¬ Acyclic (bonds .plain (Loader.plain.moments c selfReference w)) := by
  refine ⟨by decide +kernel, by decide +kernel, fun h => h ⟨1⟩ (.single ?_)⟩
  have hb : bonds .plain (Loader.plain.moments ⟨none, ⟨0⟩, none, 0, .nothing⟩ selfReference
      (World.empty.allocTable .empty).2) = [(⟨1⟩, ⟨1⟩)] := by
    decide +kernel
  rw [IsParent, hb]
  exact List.mem_singleton_self _

end Bxml
