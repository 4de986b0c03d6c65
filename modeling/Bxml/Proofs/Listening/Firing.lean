import Bxml.Listening
import Bxml.Proofs.World.Gathering
import Mathlib.Data.List.Perm.Basic

/-!
# Asking listeners in turn

Whatever listeners are, they are asked one after the other in the order in which they were added, up
to the first one that fails, `Host.askAll_cases`.  The tally of their votes is a denial if there is
one among them, else a deferral if there is one.  It does not depend on the order, unless the
listeners influence each other.

* `Answers` is the run of a list of listeners as an inductive relation, beside the function;
  `askAll_cases` reads the two cases off it.
* `Vote.tallyAll_eq` says that the gravest vote wins.
* `Steady` says of listeners that they do not influence each other: they stay in worlds in which
  each of them votes alike.  Then their order makes no difference (`Steady.poll_perm`).  Without it
  a denial is still not undone by listeners that come later (`poll_concat_of_deny`).

`Host.fires_in_order` puts these together.
-/

namespace Bxml

/-! ## Tallies -/

namespace Vote

instance : Std.Associative tally := ⟨tally_assoc⟩

instance : Std.Commutative tally := ⟨tally_comm⟩

@[simp] theorem tallyAll_nil : tallyAll [] = .approve := rfl

@[simp] theorem tallyAll_cons (v : Vote) (vs : List Vote) :
    tallyAll (v :: vs) = v.tally (tallyAll vs) := by
  have assoc : vs.foldl tally (v.tally .approve) = v.tally (vs.foldl tally .approve) :=
    List.foldl_assoc
  rw [tallyAll, List.foldl_cons, approve_tally, tallyAll, ← assoc, tally_approve]

theorem tallyAll_append (vs vs' : List Vote) :
    tallyAll (vs ++ vs') = (tallyAll vs).tally (tallyAll vs') := by
  induction vs with
  | nil => simp
  | cons v vs ih => simp [ih, tally_assoc]

/-- The graver votes win. -/
theorem tallyAll_eq (vs : List Vote) :
    tallyAll vs = if .deny ∈ vs then .deny else if .deferred ∈ vs then .deferred else .approve := by
  induction vs with
  | nil => rfl
  | cons v vs ih =>
    rw [tallyAll_cons, ih]
    by_cases hd : .deny ∈ vs <;> by_cases hf : .deferred ∈ vs <;> cases v <;> simp [hd, hf, tally]

end Vote

/-- The outcome of a vote with the given answers: those that are no votes do not count. -/
def Vote.ofAnswers (answers : List Value) : Vote :=
  if answers.any (·.vote? == some .deny) then .deny
  else if answers.any (·.vote? == some .deferred) then .deferred
  else .approve

namespace Host

theorem tallyAll_votes (answers : List Value) :
    Vote.tallyAll (votes answers) = .ofAnswers answers := by
  simp [Vote.tallyAll_eq, Vote.ofAnswers, votes]

/-! ## Answers -/

variable {L : Type} {ask : L → Op ListenerError Value} {ls : List L} {x : L} {w u v : World}

/-- Whether listeners that are asked one after the other, each in the world that the one before it
leaves, give some answers. -/
inductive Answers (ask : L → Op ListenerError Value) : List L → World → List Value → World → Prop
  | nil (w : World) : Answers ask [] w [] w
  | cons {x : L} {r : List L} {a : Value} {answers : List Value} {w u v : World} :
    (ask x).runIn w = (.ok a, u) → Answers ask r u answers v → Answers ask (x :: r) w (a :: answers) v

theorem Answers.length_eq {answers : List Value} (h : Answers ask ls w answers v) :
    answers.length = ls.length := by
  induction h with
  | nil => rfl
  | cons _ _ ih => rw [List.length_cons, List.length_cons, ih]

theorem askAll_nil : (askAll ask []).runIn w = (.ok [], w) := rfl

theorem askAll_of_ok {r : List L} {a : Value} (h : (ask x).runIn w = (.ok a, u)) :
    (askAll ask (x :: r)).runIn w =
      Prod.map (Except.map (a :: ·)) id ((askAll ask r).runIn u) := by
  rw [askAll, List.mapM_cons, Op.bind_runIn_of_ok h, Op.bind_runIn]
  change _ = Prod.map _ id ((r.mapM ask).runIn u)
  rcases (r.mapM ask).runIn u with ⟨_ | _, _⟩ <;> rfl

theorem askAll_of_error {r : List L} {e : ListenerError} (h : (ask x).runIn w = (.error e, u)) :
    (askAll ask (x :: r)).runIn w = (.error e, u) := by
  rw [askAll, List.mapM_cons, Op.bind_runIn_of_error h]

/-- All listeners answer, or there is a first one that fails, and the listeners after it are not
asked. -/
theorem askAll_cases (ask : L → Op ListenerError Value) (ls : List L) (w : World) :
    (∃ answers v, Answers ask ls w answers v ∧ (askAll ask ls).runIn w = (.ok answers, v)) ∨
      ∃ before x after answers u e v, ls = before ++ x :: after ∧ Answers ask before w answers u ∧
        (ask x).runIn u = (.error e, v) ∧ (askAll ask ls).runIn w = (.error e, v) := by
  induction ls generalizing w with
  | nil => exact .inl ⟨[], w, .nil w, rfl⟩
  | cons x r ih =>
    rcases first : (ask x).runIn w with ⟨e | a, u⟩
    · exact .inr ⟨[], x, r, [], w, e, u, rfl, .nil w, first, askAll_of_error first⟩
    rcases ih u with ⟨answers, v, given, all⟩ |
      ⟨before, y, after, answers, u', e, v, rfl, given, failed, all⟩
    · refine .inl ⟨a :: answers, v, .cons first given, ?_⟩
      rw [askAll_of_ok first, all]
      rfl
    · refine .inr ⟨x :: before, y, after, a :: answers, u', e, v, rfl, .cons first given, failed, ?_⟩
      rw [askAll_of_ok first, all]
      rfl

theorem poll_eq (ask : L → Op ListenerError Value) (ls : List L) (w : World) :
    (poll ask ls).runIn w = Prod.map (Except.map Vote.ofAnswers) id ((askAll ask ls).runIn w) := by
  rw [poll, Op.bind_runIn]
  rcases (askAll ask ls).runIn w with ⟨e | answers, v⟩
  · rfl
  · simp only [Op.pure_runIn, tallyAll_votes]
    rfl

/-! ## Listeners that do not influence each other -/

/-- The vote that a listener gives, if it does; nothing at all if it fails. -/
def ballot (r : Except ListenerError Value) : Option (Option Vote) := r.toOption.map Value.vote?

/-- The tally of one more ballot. -/
def count : Option (Option Vote) → Option Vote → Option Vote
  | some (some v), some t => some (v.tally t)
  | some none, t => t
  | _, _ => none

theorem count_left_comm (b b' : Option (Option Vote)) (t : Option Vote) :
    count b (count b' t) = count b' (count b t) := by
  rcases b with _ | _ | v <;> rcases b' with _ | _ | v' <;> rcases t with _ | t <;> try rfl
  exact congrArg some (by rw [← Vote.tally_assoc, ← Vote.tally_assoc, Vote.tally_comm v])

/-- Whether listeners lead from worlds of `P` to worlds of `P` only, in all of which each of them
votes alike.  Those that leave a world as it is do so with that world alone for `P`. -/
structure Steady (ask : L → Op ListenerError Value) (P : World → Prop) (ls : List L) : Prop where
  keeps {x : L} : x ∈ ls → ∀ {u}, P u → P ((ask x).runIn u).2
  alike {x : L} : x ∈ ls → ∀ {u v}, P u → P v →
    ballot ((ask x).runIn u).1 = ballot ((ask x).runIn v).1

/-- Listeners that leave a world as it is do not influence each other in it. -/
theorem steady_of_still (h : ∀ x ∈ ls, ((ask x).runIn w).2 = w) : Steady ask (· = w) ls where
  keeps {x} hx u hu := by
    subst hu
    exact h x hx
  alike _ u v hu hv := by rw [hu, hv]

theorem poll_cons (x : L) (r : List L) :
    ((poll ask (x :: r)).runIn w).1.toOption =
      count (ballot ((ask x).runIn w).1) ((poll ask r).runIn ((ask x).runIn w).2).1.toOption := by
  rcases first : (ask x).runIn w with ⟨e | a, u⟩
  · rw [poll, Op.bind_runIn_of_error (askAll_of_error first)]
    rfl
  · rw [poll, Op.bind_runIn, askAll_of_ok first, poll, Op.bind_runIn]
    rcases (askAll ask r).runIn u with ⟨e | answers, v⟩
    · cases a <;> rfl
    · cases a <;> try rfl
      exact congrArg some (Vote.tallyAll_cons _ _)

/-- The votes of listeners that do not influence each other are counted one by one. -/
theorem Steady.poll_eq {P : World → Prop} (h : Steady ask P ls) (hw : P w) (hu : P u) :
    ((poll ask ls).runIn u).1.toOption =
      ls.foldr (fun x => count (ballot ((ask x).runIn w).1)) (some .approve) := by
  induction ls generalizing u with
  | nil => rfl
  | cons x r ih =>
    have rest : Steady ask P r := ⟨fun hx => h.keeps (List.mem_cons_of_mem x hx),
      fun hx => h.alike (List.mem_cons_of_mem x hx)⟩
    rw [poll_cons, ih rest (h.keeps List.mem_cons_self hu), List.foldr_cons,
      h.alike List.mem_cons_self hu hw]

/-- The order of listeners that do not influence each other makes no difference to a vote. -/
theorem Steady.poll_perm {P : World → Prop} (h : Steady ask P ls) (hw : P w) {ls' : List L}
    (hp : ls.Perm ls') :
    ((poll ask ls').runIn w).1.toOption = ((poll ask ls).runIn w).1.toOption := by
  have h' : Steady ask P ls' :=
    ⟨fun hx => h.keeps (hp.mem_iff.2 hx), fun hx => h.alike (hp.mem_iff.2 hx)⟩
  rw [h.poll_eq hw hw, h'.poll_eq hw hw]
  refine hp.symm.foldr_eq' (f := fun x => count (ballot ((ask x).runIn w).1)) ?_ _
  exact fun x _ y _ t => count_left_comm ..

/-! ## One listener more -/

theorem askAll_append {ls' : List L} {answers : List Value}
    (h : (askAll ask ls).runIn w = (.ok answers, v)) :
    (askAll ask (ls ++ ls')).runIn w =
      Prod.map (Except.map (answers ++ ·)) id ((askAll ask ls').runIn v) := by
  have first : (ls.mapM ask).runIn w = (.ok answers, v) := h
  rw [askAll, List.mapM_append, Op.bind_runIn_of_ok first, Op.bind_runIn]
  change _ = Prod.map _ id ((ls'.mapM ask).runIn v)
  rcases (ls'.mapM ask).runIn v with ⟨_ | _, _⟩ <;> rfl

theorem ofAnswers_append_of_deny {answers : List Value} (h : Vote.ofAnswers answers = .deny)
    (more : List Value) : Vote.ofAnswers (answers ++ more) = .deny := by
  rw [← tallyAll_votes] at h ⊢
  rw [votes, List.filterMap_append, Vote.tallyAll_append, ← votes, h, Vote.deny_tally]

/-- A listener that comes later cannot undo a denial, only fail. -/
theorem poll_concat_of_deny (h : (poll ask ls).runIn w = (.ok .deny, v)) (x : L) :
    (poll ask (ls ++ [x])).runIn w = Prod.map (Except.map fun _ => .deny) id ((ask x).runIn v) := by
  rcases all : (askAll ask ls).runIn w with ⟨e | answers, z⟩
  · rw [poll_eq, all] at h
    cases h
  · rw [poll_eq, all] at h
    obtain ⟨denied, rfl⟩ : Vote.ofAnswers answers = .deny ∧ z = v := by
      simpa [Except.map] using h
    rw [poll_eq, askAll_append all]
    rcases last : (ask x).runIn z with ⟨e | a, u⟩
    · rw [askAll_of_error last]
      rfl
    · rw [askAll_of_ok last, askAll_nil]
      simp [Except.map, ofAnswers_append_of_deny denied]

/-! ## Lists of listeners -/

/-- The listeners of a list, in which the latest stands last, are asked in their order up to the first
one that fails, whose failure it is; otherwise each gives an answer, and the gravest vote among the
answers is the outcome.  If they do not influence each other their order makes no difference to it,
and one more listener does not change a denial.  All this is so for listeners of any kind. -/
theorem fires_in_order :
    (∀ (w : World) (o : ObjectId) (name : String) (list : ListenerList) (x : Listener),
      (w.object o).listeners? name = some list →
        ((w.addListener o name x).object o).listeners? name =
          some { list with listeners := list.listeners ++ [x] }) ∧
    (∀ (host : Host) (h : Held) (list : ListenerList) (method : String) (args : List Value),
      host.fire h list method args =
          askAll (host.call (h.keep args) method args) list.listeners ∧
        host.vote h list method args =
          poll (host.call (h.keep args) method args) list.listeners) ∧
    ∀ (L : Type) (ask : L → Op ListenerError Value) (ls : List L) (w : World),
      ((∃ answers v, Answers ask ls w answers v ∧ answers.length = ls.length ∧
          (askAll ask ls).runIn w = (.ok answers, v) ∧
          (poll ask ls).runIn w = (.ok (.ofAnswers answers), v)) ∨
        ∃ before x after answers u e v, ls = before ++ x :: after ∧
          Answers ask before w answers u ∧ (ask x).runIn u = (.error e, v) ∧
          (askAll ask ls).runIn w = (.error e, v) ∧ (poll ask ls).runIn w = (.error e, v)) ∧
      (∀ P, Steady ask P ls → P w → ∀ ls', ls.Perm ls' →
        ((poll ask ls').runIn w).1.toOption = ((poll ask ls).runIn w).1.toOption) ∧
      ∀ v, (poll ask ls).runIn w = (.ok .deny, v) → ∀ x, (poll ask (ls ++ [x])).runIn w =
        Prod.map (Except.map fun _ => .deny) id ((ask x).runIn v) := by
  refine ⟨fun w o name list x hl => ?added, fun _ _ _ _ _ => ⟨rfl, rfl⟩,
    fun L ask ls w => ⟨?asked, ?order, ?more⟩⟩
  case added => rw [World.listeners?_addListener hl, if_pos rfl]
  case asked =>
    rcases askAll_cases ask ls w with ⟨answers, v, given, all⟩ |
      ⟨before, x, after, answers, u, e, v, split, given, failed, all⟩
    · refine .inl ⟨answers, v, given, given.length_eq, all, ?_⟩
      rw [poll_eq, all]
      rfl
    · refine .inr ⟨before, x, after, answers, u, e, v, split, given, failed, all, ?_⟩
      rw [poll_eq, all]
      rfl
  case order => exact fun P steady hw ls' hp => steady.poll_perm hw hp
  case more => exact fun v denied x => poll_concat_of_deny denied x

/-- A denial among other answers is the outcome in any order, and with one answer more. -/
theorem fires_in_order_of_constants :
    let ask := (Host.plain "none").call .nothing "closing" []
    let ls : List Listener :=
      [.constant (.vote .deferred), .constant (.string "no"), .constant (.vote .deny)]
    Steady ask (· = .empty) ls ∧ ls.Perm ls.reverse ∧
      ((poll ask ls).runIn .empty).1.toOption = some .deny ∧
      ((poll ask ls.reverse).runIn .empty).1.toOption = some .deny ∧
      ((poll ask (ls ++ [.constant (.vote .approve)])).runIn .empty).1.toOption = some .deny := by
  intro ask ls
  have steady : Steady ask (· = .empty) ls := steady_of_still (by simp [ls, ask, call])
  have denied : (poll ask ls).runIn .empty = (.ok .deny, .empty) := rfl
  obtain ⟨-, order, more⟩ := fires_in_order.2.2 Listener ask ls .empty
  refine ⟨steady, (List.reverse_perm ls).symm, by rw [denied]; rfl, ?_, ?_⟩
  · rw [order _ steady rfl _ (List.reverse_perm ls).symm, denied]
    rfl
  · rw [more _ denied]
    rfl

end Host

end Bxml
