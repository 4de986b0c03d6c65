import Bxml.Proofs.Twins.Worlds

/-!
# Twin operations

Two operations do the same if in worlds that have come about by the same steps they give results
that are related, or both fail, and again the same steps have been made.  How far failures have to
be the same, and which of them leave it open what the other operation does, is a parameter.  Whatever
is recorded in the trace does not count.

`SameRun` compares two runs and `SameOp` two operations, in all worlds that are the same; `Failing`
is the parameter for failures.  There is a lemma for each way to build operations, `SameOp.bind`
being the one that all others rest on.  `SameOp.congr` says that only objects and tables count.
-/

namespace Bxml

/-- How failures are compared: which are the same, and which failures of the first operation say
nothing about the second one. -/
structure Failing (ε : Type) where
  same : ε → ε → Prop
  lost : ε → Prop
  refl : ∀ e, same e e

/-- Failures are the same if they are equal. -/
def Failing.exact (ε : Type) : Failing ε := ⟨Eq, fun _ => False, fun _ => rfl⟩

namespace Twins

variable (S : Twins)

/-- Whether two runs come to the same. -/
inductive SameRun {ε α β : Type} (F : Failing ε) (R : α → β → Prop) :
    Except ε α × World → Except ε β × World → Prop
  | ok {a : α} {b : β} {w w' : World} : R a b → S.SameWorld w w' → SameRun F R (.ok a, w) (.ok b, w')
  | error {e e' : ε} {w w' : World} : F.same e e' → S.SameWorld w w' →
      SameRun F R (.error e, w) (.error e', w')
  | lost {e : ε} {w : World} {r : Except ε β × World} : F.lost e → SameRun F R (.error e, w) r

/-- Whether two operations do the same. -/
def SameOp {ε α β : Type} (F : Failing ε) (R : α → β → Prop) (x : Op ε α) (y : Op ε β) : Prop :=
  ∀ w w' : World, S.SameWorld w w' → S.SameRun F R (x.runIn w) (y.runIn w')

variable {S}

namespace SameRun

variable {ε δ α α' β β' : Type} {F : Failing ε} {R : α → β → Prop}

/-- What follows does the same if it does so for the result of the first operation and one that is
related to it. -/
theorem bind {Q : α' → β' → Prop} {x : Op ε α} {y : Op ε β} {f : α → Op ε α'} {g : β → Op ε β'}
    {w w' : World} (h : S.SameRun F R (x.runIn w) (y.runIn w'))
    (hf : ∀ {a b v v'}, x.runIn w = (.ok a, v) → R a b → S.SameWorld v v' →
      S.SameRun F Q ((f a).runIn v) ((g b).runIn v')) :
    S.SameRun F Q ((x >>= f).runIn w) ((y >>= g).runIn w') := by
  rw [Op.bind_runIn, Op.bind_runIn]
  generalize x.runIn w = r at h hf
  generalize y.runIn w' = r' at h
  cases h with
  | ok h hw => exact hf rfl h hw
  | error h hw => exact .error h hw
  | lost h => exact .lost h

theorem onError {x : Op ε α} {y : Op ε β} {f g : ε → World → World} {w w' : World}
    (h : S.SameRun F R (x.runIn w) (y.runIn w'))
    (hf : ∀ {e e' w w'}, S.SameWorld w w' → S.SameWorld (f e w) (g e' w')) :
    S.SameRun F R ((x.onError f).runIn w) ((y.onError g).runIn w') := by
  rw [Op.onError_runIn, Op.onError_runIn]
  generalize x.runIn w = r at h
  generalize y.runIn w' = r' at h
  cases h with
  | ok h hw => exact .ok h hw
  | error h hw => exact .error h (hf hw)
  | lost h => exact .lost h

end SameRun

namespace SameOp

variable {ε δ α α' β β' : Type} {F : Failing ε} {R : α → β → Prop} {x : Op ε α} {y : Op ε β}

theorem pure {a : α} {b : β} (h : R a b) : S.SameOp F R (pure a) (pure b) :=
  fun _ _ hw => .ok h hw

theorem throw {e e' : ε} (h : F.same e e') : S.SameOp F R (throw e) (throw e') :=
  fun _ _ hw => .error h hw

theorem throwSame (e : ε) : S.SameOp F R (MonadExcept.throw e) (MonadExcept.throw e) :=
  throw (F.refl e)

theorem ofExcept {r : Except ε α} {r' : Except ε β} (h : SameResult R r r') :
    S.SameOp F R (.ofExcept r) (.ofExcept r') := by
  intro w w' hw
  cases h with
  | ok h => exact .ok h hw
  | error e => exact .error (F.refl e) hw

theorem ofExceptSame {α : Type} (r : Except ε α) :
    S.SameOp F Eq (.ofExcept r) (.ofExcept r) := by
  cases r with
  | ok a => exact ofExcept (.ok rfl)
  | error e => exact ofExcept (.error e)

theorem read {f : World → α} {g : World → β}
    (h : ∀ {w w'}, S.SameWorld w w' → R (f w) (g w')) : S.SameOp F R (.read f) (.read g) :=
  fun _ _ hw => .ok (h hw) hw

theorem check {f : World → Except ε α} {g : World → Except ε β}
    (h : ∀ {w w'}, S.SameWorld w w' → SameResult R (f w) (g w')) :
    S.SameOp F R (.check f) (.check g) := by
  intro w w' hw
  rw [Op.check_runIn, Op.check_runIn]
  obtain ⟨a, b, ha, hb, hab⟩ | ⟨e, ha, hb⟩ := (h hw).ok_or_error
  · rw [ha, hb]
    exact .ok hab hw
  · rw [ha, hb]
    exact .error (F.refl e) hw

theorem change {f g : World → World}
    (h : ∀ {w w'}, S.SameWorld w w' → S.SameWorld (f w) (g w')) :
    S.SameOp F Eq (.change f : Op ε Unit) (.change g) :=
  fun _ _ hw => .ok rfl (h hw)

theorem make {f : World → α × World} {g : World → β × World}
    (h : ∀ {w w'}, S.SameWorld w w' → R (f w).1 (g w').1 ∧ S.SameWorld (f w).2 (g w').2) :
    S.SameOp F R (.make f : Op ε α) (.make g) :=
  fun _ _ hw => .ok (h hw).1 (h hw).2

theorem update {f g : World → Except ε World}
    (h : ∀ {w w'}, S.SameWorld w w' → SameResult S.SameWorld (f w) (g w')) :
    S.SameOp F Eq (.update f) (.update g) := by
  intro w w' hw
  rw [Op.update_runIn, Op.update_runIn]
  obtain ⟨v, v', hv, hv', same⟩ | ⟨e, hv, hv'⟩ := (h hw).ok_or_error
  · rw [hv, hv']
    exact .ok rfl same
  · rw [hv, hv']
    exact .error (F.refl e) hw

theorem mapError {G : Failing δ} {f g : ε → δ} (h : S.SameOp F R x y)
    (hs : ∀ {e e'}, F.same e e' → G.same (f e) (g e')) (hl : ∀ {e}, F.lost e → G.lost (f e)) :
    S.SameOp G R (x.mapError f) (y.mapError g) := by
  intro w w' hw
  have hr := h w w' hw
  rw [Op.mapError_runIn, Op.mapError_runIn]
  generalize x.runIn w = r at hr
  generalize y.runIn w' = r' at hr
  cases hr with
  | ok h hw => exact .ok h hw
  | error h hw => exact .error (hs h) hw
  | lost h => exact .lost (hl h)

/-- Equal failures stay equal. -/
theorem mapSame {G : Failing δ} (h : S.SameOp (.exact ε) R x y) (f : ε → δ) :
    S.SameOp G R (x.mapError f) (y.mapError f) :=
  h.mapError (fun he => he ▸ G.refl _) False.elim

theorem attempt {G : Failing δ} (h : S.SameOp (.exact ε) R x y) :
    S.SameOp G (SameResult R) (x.attempt : Op δ (Except ε α)) y.attempt := by
  intro w w' hw
  have hr := h w w' hw
  rw [Op.attempt_runIn, Op.attempt_runIn]
  generalize x.runIn w = r at hr
  generalize y.runIn w' = r' at hr
  cases hr with
  | ok h hw => exact .ok (.ok h) hw
  | error h hw =>
    obtain rfl : _ = _ := h
    exact .ok (.error _) hw
  | lost h => exact h.elim

theorem onError {f g : ε → World → World} (h : S.SameOp F R x y)
    (hf : ∀ {e e' w w'}, S.SameWorld w w' → S.SameWorld (f e w) (g e' w')) :
    S.SameOp F R (x.onError f) (y.onError g) :=
  fun w w' hw => (h w w' hw).onError hf

theorem bind {Q : α' → β' → Prop} {f : α → Op ε α'} {g : β → Op ε β'} (h : S.SameOp F R x y)
    (hf : ∀ {a b}, R a b → S.SameOp F Q (f a) (g b)) : S.SameOp F Q (x >>= f) (y >>= g) :=
  fun w w' hw => (h w w' hw).bind fun _ hab hv => hf hab _ _ hv

theorem ite {p q : Prop} [Decidable p] [Decidable q] {x' : Op ε α} {y' : Op ε β} (hpq : p ↔ q)
    (h : S.SameOp F R x y) (h' : S.SameOp F R x' y') :
    S.SameOp F R (if p then x else x') (if q then y else y') := by
  by_cases hp : p
  · rw [if_pos hp, if_pos (hpq.1 hp)]
    exact h
  · rw [if_neg hp, if_neg fun hq => hp (hpq.2 hq)]
    exact h'

theorem forM {f : α → Op ε Unit} {g : β → Op ε Unit} {l : List α} {l' : List β}
    (hl : List.Forall₂ R l l') (hf : ∀ {a b}, R a b → S.SameOp F Eq (f a) (g b)) :
    S.SameOp F Eq (l.forM f) (l'.forM g) := by
  induction hl with
  | nil => exact pure rfl
  | @cons a b l l' hab _ ih =>
    change S.SameOp F Eq (f a >>= fun _ => l.forM f) (g b >>= fun _ => l'.forM g)
    exact (hf hab).bind fun _ => ih

theorem foldlM {Q : α' → β' → Prop} {f : α' → α → Op ε α'} {g : β' → β → Op ε β'} {l : List α}
    {l' : List β} {a : α'} {b : β'} (hl : List.Forall₂ R l l') (hab : Q a b)
    (hf : ∀ {a b p q}, Q a b → R p q → S.SameOp F Q (f a p) (g b q)) :
    S.SameOp F Q (l.foldlM f a) (l'.foldlM g b) := by
  induction hl generalizing a b with
  | nil => exact pure hab
  | cons hpq _ ih =>
    rw [List.foldlM_cons, List.foldlM_cons]
    exact (hf hab hpq).bind ih

end SameOp

/-! ## Changes -/

namespace SameWorld

variable {w w' v v' : World}

/-- Only objects and tables count. -/
theorem congr (h : S.SameWorld w w') (ho : v.objects = w.objects) (ht : v.tables = w.tables)
    (ho' : v'.objects = w'.objects) (ht' : v'.tables = w'.tables) : S.SameWorld v v' := by
  have object {a b : World} (hab : a.objects = b.objects) (o : ObjectId) : a.object o = b.object o := by
    unfold World.object
    rw [hab]
  have table {a b : World} (hab : a.tables = b.tables) (t : TableId) : a.table t = b.table t := by
    unfold World.table
    rw [hab]
  constructor
  · rw [ho, ho']
    exact h.size
  · rw [ht, ht']
    exact h.tablesSize
  · intro o p hop
    rw [object ho, object ho']
    exact h.object hop
  · intro t u htu
    rw [table ht, table ht']
    exact h.table htu
  · intro o hi hn
    rw [object ho]
    exact h.left_object hi hn
  · intro o hi hn
    rw [object ho']
    exact h.right_object hi hn
  · intro t hi
    rw [table ht]
    exact h.left_table hi
  · intro t hi
    rw [table ht']
    exact h.right_table hi

theorem emit (h : S.SameWorld w w') (e e' : Event) : S.SameWorld (w.emit e) (w'.emit e') :=
  h.congr rfl rfl rfl rfl

theorem log (h : S.SameWorld w w') (level level' : Level) (s s' : String) :
    S.SameWorld (w.log level s) (w'.log level' s') :=
  h.congr rfl rfl rfl rfl

end SameWorld

namespace SameOp

variable {ε : Type} {F : Failing ε}

theorem emit (e e' : Event) : S.SameOp F Eq (.emit e : Op ε Unit) (.emit e') :=
  change fun hw => hw.emit e e'

theorem log (level level' : Level) (s s' : String) :
    S.SameOp F Eq (.log level s : Op ε Unit) (.log level' s') :=
  change fun hw => hw.log level level' s s'

theorem typeName {o p : ObjectId} (h : S.SameObject o p) :
    S.SameOp F Eq (.typeName o : Op ε String) (.typeName p) :=
  read fun hw => hw.typeName h

theorem object {o p : ObjectId} (h : S.SameObject o p) :
    S.SameOp F S.SameState (.read (·.object o) : Op ε Object) (.read (·.object p)) :=
  read fun hw => hw.object h

end SameOp

end Twins

end Bxml
