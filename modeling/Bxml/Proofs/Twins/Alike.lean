import Bxml.Proofs.Twins.Itself
import Bxml.Proofs.Twins.Loading

/-!
# Runs that come to the same

Two runs are alike if both fail, no matter how, or both succeed with results that are related, in
worlds that differ at most in the trace.  What twins do is alike when a world is compared with
itself; beyond that runs can be chained, and reports and wrappers on one side do not count.

* `Alike` is this relation of runs, with the failures of the first run that say nothing about the
  second one as a parameter, and `Alike.trans` and `Alike.bind` put runs together.
* `SameOp.alike` comes from the twins of a world with itself (`Twins/Itself.lean`).
* `onError_left` and `onError_right` leave reports aside, and `isOk_iff` is what is said of two
  loads in the end.
* `SameDraft.chain` composes documents that are the same, where one is above a ground.
-/

namespace Bxml

/-- Whether two runs come to the same. Of the second one nothing is said if the first one fails in
certain ways. -/
inductive Alike {ε δ α β : Type} (lost : ε → Prop) (R : α → β → Prop) :
    Except ε α × World → Except δ β × World → Prop
  | ok {a : α} {b : β} {w w' : World} : R a b → w.Agrees w' → Alike lost R (.ok a, w) (.ok b, w')
  | error {e : ε} {e' : δ} {w w' : World} : Alike lost R (.error e, w) (.error e', w')
  | lost {e : ε} {w : World} {r : Except δ β × World} : lost e → Alike lost R (.error e, w) r

namespace World.Agrees

variable {v w u : World}

theorem refl (w : World) : w.Agrees w := ⟨rfl, rfl⟩

theorem symm (h : v.Agrees w) : w.Agrees v := ⟨h.objects.symm, h.tables.symm⟩

theorem trans (h : v.Agrees w) (h' : w.Agrees u) : v.Agrees u :=
  ⟨h.objects.trans h'.objects, h.tables.trans h'.tables⟩

theorem log (w : World) (level : Level) (s : String) : w.Agrees (w.log level s) := ⟨rfl, rfl⟩

end World.Agrees

namespace Alike

variable {ε δ α β γ α' β' : Type} {lost : ε → Prop} {R : α → β → Prop}

theorem refl {lost : ε → Prop} (r : Except ε α × World) : Alike lost Eq r r := by
  obtain ⟨_ | _, _⟩ := r
  · exact .error
  · exact .ok rfl (.refl _)

theorem mono {Q : α → β → Prop} {r : Except ε α × World} {r' : Except δ β × World}
    (h : Alike lost R r r') (hq : ∀ a b, R a b → Q a b) : Alike lost Q r r' := by
  cases h with
  | ok h hw => exact .ok (hq _ _ h) hw
  | error => exact .error
  | lost h => exact .lost h

theorem weaken {r : Except ε α × World} {r' : Except δ β × World}
    (h : Alike (fun _ => False) R r r') : Alike lost R r r' := by
  cases h with
  | ok h hw => exact .ok h hw
  | error => exact .error
  | lost h => exact h.elim

theorem trans {Q : β → γ → Prop} {r : Except ε α × World} {r' : Except δ β × World}
    {r'' : Except δ γ × World} (h : Alike lost R r r') (h' : Alike (fun _ => False) Q r' r'') :
    Alike lost (fun a c => ∃ b, R a b ∧ Q b c) r r'' := by
  cases h with
  | ok h hw =>
    cases h' with
    | ok h' hw' => exact .ok ⟨_, h, h'⟩ (hw.trans hw')
  | error =>
    cases h' with
    | error => exact .error
    | lost h' => exact h'.elim
  | lost h => exact .lost h

theorem bind {Q : α' → β' → Prop} {x : Op ε α} {y : Op δ β} {f : α → Op ε α'} {g : β → Op δ β'}
    {w w' : World} (h : Alike lost R (x.runIn w) (y.runIn w'))
    (hf : ∀ {a b v v'}, x.runIn w = (.ok a, v) → R a b → v.Agrees v' →
      Alike lost Q ((f a).runIn v) ((g b).runIn v')) :
    Alike lost Q ((x >>= f).runIn w) ((y >>= g).runIn w') := by
  rw [Op.bind_runIn, Op.bind_runIn]
  generalize x.runIn w = r at h hf
  generalize y.runIn w' = r' at h
  cases h with
  | ok h hw => exact hf rfl h hw
  | error => exact .error
  | lost h => exact .lost h

/-- What the first run does about its failures does not count. -/
theorem onError_left {x : Op ε α} {f : ε → World → World} {w : World}
    {r' : Except δ β × World} (h : Alike lost R (x.runIn w) r') :
    Alike lost R ((x.onError f).runIn w) r' := by
  rw [Op.onError_runIn]
  generalize x.runIn w = r at h
  cases h with
  | ok h hw => exact .ok h hw
  | error => exact .error
  | lost h => exact .lost h

/-- What the second run does about its failures does not count. -/
theorem onError_right {y : Op δ β} {f : δ → World → World} {w : World}
    {r : Except ε α × World} (h : Alike lost R r (y.runIn w)) :
    Alike lost R r ((y.onError f).runIn w) := by
  cases hr : y.runIn w with
  | mk x v =>
    rw [hr] at h
    rw [Op.onError_runIn, hr]
    cases h with
    | ok h hw => exact .ok h hw
    | error => exact .error
    | lost h => exact .lost h

/-- The first run may succeed instead of the second one and the other way round, and then they come
to the same. -/
theorem isOk_iff {r : Except ε α × World} {r' : Except δ β × World} (h : Alike lost R r r')
    (hl : ∀ e, r.1 = .error e → ¬ lost e) :
    (r.1.isOk = r'.1.isOk) ∧ ∀ a b, r.1 = .ok a → r'.1 = .ok b → R a b ∧ r.2.Agrees r'.2 := by
  cases h with
  | ok h hw =>
    refine ⟨rfl, fun a b ha hb => ?_⟩
    cases ha
    cases hb
    exact ⟨h, hw⟩
  | error => exact ⟨rfl, fun _ _ ha _ => by cases ha⟩
  | lost h => exact (hl _ rfl h).elim

end Alike

/-- Whether what a loader needs from outside does the same whenever it meets the same objects and
tables. -/
def Loader.IsDeterministic (l : Loader) : Prop := Twins.itself.Uniform l

/-- How failures of loads are compared if it does not count how a load fails. -/
def Faults.loose (lost : LoadError → Prop) (h : ∀ {u e}, lost e → lost (.included u e)) :
    Faults where
  same _ _ := True
  lost := lost
  refl _ := trivial
  included _ := trivial
  lost_included := h

/-- All failures are alike. -/
def Faults.all : Faults := .loose (fun _ => False) id

namespace Twins

variable {S : Twins} {F F' : Faults} {l : Loader} {G : Ground}

theorem SameRun.alike {ε α β : Type} {E : Failing ε} {R : α → β → Prop} {r : Except ε α × World}
    {r' : Except ε β × World} (h : itself.SameRun E R r r') : Alike E.lost R r r' := by
  cases h with
  | ok h hw => exact .ok h (sameWorld_itself.1 hw)
  | error _ _ => exact .error
  | lost h => exact .lost h

theorem SameOp.alike {ε α β : Type} {E : Failing ε} {R : α → β → Prop} {x : Op ε α} {y : Op ε β}
    (h : itself.SameOp E R x y) {w w' : World} (hw : w.Agrees w') :
    Alike E.lost R (x.runIn w) (y.runIn w') :=
  (h w w' (sameWorld_itself.2 hw)).alike

/-! ## Drafts -/

theorem SameElement.relocate {e e' : Element} (h : S.SameElement F e e')
    (hl : F'.Located e.location e'.location) : S.SameElement F' e e' :=
  { h with location := hl }

theorem sameElement_itself (F : Faults) (e : Element) : itself.SameElement F e e :=
  ⟨rfl, rfl, sameValue_itself.2 rfl, rfl, rfl, (rel_itself fun _ _ => sameValue_itself).2 rfl, rfl,
    rfl, F.located_refl _⟩

theorem sameDraft_itself (F : Faults) (l : Loader) (d : Draft) {parented : List ObjectId}
    (h : parented ⊆ d.parented) : itself.SameDraft F l (.bare parented) d d where
  elements := ⟨d.stack, (List.append_nil _).symm, List.forall₂_same.2 fun e _ => sameElement_itself F e⟩
  root := .inl ⟨(option_itself fun _ _ => sameValue_itself).2 rfl, rfl⟩
  bindings := ⟨d.bindings, rfl, List.forall₂_same.2 fun _ _ =>
    ⟨sameObject_itself.2 rfl, rfl, rfl, F.located_refl _⟩⟩
  parented := sameMembers_itself _
  kept := h
  ground := .inr rfl
  language := rfl
  settled := rfl

/-- Relations of lists are chained member by member. -/
theorem forall₂_chain {α β γ : Type} {R : α → β → Prop} {Q : β → γ → Prop} {T : α → γ → Prop}
    (ht : ∀ {a b c}, R a b → Q b c → T a c) {l : List α} {l' : List β} {l'' : List γ}
    (h : List.Forall₂ R l l') (h' : List.Forall₂ Q l' l'') : List.Forall₂ T l l'' := by
  induction h generalizing l'' with
  | nil =>
    cases h'
    exact .nil
  | cons hr _ ih =>
    cases h' with
    | cons hq h' => exact .cons (ht hr hq) (ih h')

theorem SameElement.chain {a b e : Element} (h : itself.SameElement F a b)
    (h' : itself.SameElement F b e) : itself.SameElement .all a e where
  kind := h.kind.trans h'.kind
  name := h.name.trans h'.name
  value := sameValue_itself.1 h.value ▸ h'.value
  id := h.id.trans h'.id
  control := h.control.trans h'.control
  attributes := (rel_itself fun _ _ => sameValue_itself).1 h.attributes ▸ h'.attributes
  attached := h.attached.trans h'.attached
  text := h.text.trans h'.text
  location := fun _ => trivial

/-- What is the same as something that is the same is the same, if places do not count. -/
theorem SameDraft.chain {d d' d'' : Draft} (h : itself.SameDraft F l (.bare []) d d')
    (h' : itself.SameDraft F l (.bare []) d' d'') : itself.SameDraft .all l (.bare []) d d'' where
  elements := by
    obtain ⟨top, hs, ht⟩ := h.elements
    obtain ⟨top', hs', ht'⟩ := h'.elements
    obtain rfl : d'.stack = top := hs.trans (List.append_nil _)
    exact ⟨top', hs', forall₂_chain (fun h h' => h.chain h') ht ht'⟩
  root := by
    have equal {a b : Draft} (h : itself.SameDraft F l (.bare []) a b) : a.root = b.root := by
      obtain ⟨hr, -⟩ | ⟨ha, hb⟩ := h.root
      · exact (option_itself fun _ _ => sameValue_itself).1 hr
      · rw [ha, hb]
        rfl
    exact .inl ⟨(option_itself fun _ _ => sameValue_itself).2 ((equal h).trans (equal h')), rfl⟩
  bindings := by
    obtain ⟨rest, hb, hr⟩ := h.bindings
    obtain ⟨rest', hb', hr'⟩ := h'.bindings
    obtain rfl : d'.bindings = rest := hb
    refine ⟨rest', hb', forall₂_chain (fun {p q r} hp hq => ?_) hr hr'⟩
    exact ⟨sameObject_itself.1 hp.target ▸ hq.target, hp.targetKey.trans hq.targetKey,
      hp.expression.trans hq.expression, fun _ => trivial⟩
  parented := fun o p ho => (h.parented (sameObject_itself.2 rfl)).trans (h'.parented ho)
  kept := h'.kept
  ground := .inr rfl
  language := h.language.trans h'.language
  settled := h.settled.trans h'.settled

theorem SameLoaded.eq {parented : List ObjectId} {x x' : Outcome × List ObjectId}
    (h : itself.SameLoaded parented x x') : x.1 = x'.1 := by
  obtain ⟨⟨root, table, location⟩, p⟩ := x
  obtain ⟨⟨root', table', location'⟩, p'⟩ := x'
  obtain rfl := sameValue_itself.1 h.root
  obtain rfl := sameTable_itself.1 h.table
  obtain rfl := h.location
  rfl

end Twins

end Bxml
