import Bxml.Proofs.Propagation

/-!
# Writes that come to an end

A write comes to an end if it does the same in every host that allows some number of nested writes:
then none of them was ever given up.  It does if all who are told of it write what comes to an end
with one nested write less.

`Op.Ends` and `Lands` say so of operations and of writes; both are about all hosts at once, so that
no count of nested writes appears in what is said of worlds.  `lands_of_error`, `lands_of_quiet` and
`lands_of_told` are the ways in which a write may go, and `exists_tell`, `exists_tell_all` and
`exists_publish` lead through those who are told, with an invariant of the caller's.
-/

namespace Bxml

/-- Whether an operation has a certain outcome in every host, as long as at least `n` nested writes
are allowed. -/
def Ends {ε : Type} (n : Nat) (x : Host → Nat → Op ε Unit) (w : World)
    (r : Except ε Unit × World) : Prop :=
  ∀ (host : Host) (k : Nat), n ≤ k → (x host k).runIn w = r

/-- Whether the writing of `a` to a place comes to an end, in a world that is as `Q` says. -/
def Lands (n : Nat) (h : Held) (p : Place) (a : Value) (w : World) (Q : World → Prop) : Prop :=
  ∃ r u, Ends n (fun host k => host.write k h p.object p.key a) w (r, u) ∧ Q u

section

variable {ε : Type} {x : Host → Nat → Op ε Unit} {w u : World} {r : Except ε Unit × World}
  {h : Held} {p : Place} {a previous : Value} {m n : Nat} {Q Q' : World → Prop}

theorem Ends.mono (hx : Ends m x w r) (hn : m ≤ n) : Ends n x w r :=
  fun host k hk => hx host k (Nat.le_trans hn hk)

theorem Lands.mono (hx : Lands m h p a w Q) (hn : m ≤ n) : Lands n h p a w Q := by
  obtain ⟨r, u, he, hq⟩ := hx
  exact ⟨r, u, he.mono hn, hq⟩

theorem Lands.weaken (hx : Lands n h p a w Q) (hQ : ∀ u, Q u → Q' u) : Lands n h p a w Q' := by
  obtain ⟨r, u, he, hq⟩ := hx
  exact ⟨r, u, he, hQ u hq⟩

/-! ## Writing -/

theorem write_eq_writeThen (host : Host) (k : Nat) : ∃ f, host.write k = Host.writeThen f := by
  cases k <;> exact ⟨_, rfl⟩

/-- What a write does is to tell of the value that it replaced. -/
theorem writeThen_of_told {publish : Held → ObjectId → String → Value → Op PropertyError Unit}
    {x : World.Written} (hx : w.assign p.object p.key a = .ok x)
    (hp : x.previous = some previous) :
    (Host.writeThen publish h p.object p.key a).runIn w =
      (publish (h.keep [.object p.object, a, previous]) p.object p.key previous).runIn x.world := by
  unfold Op.runIn Host.writeThen
  rw [hx]
  obtain ⟨world, _⟩ := x
  cases hp
  rfl

/-- A write that is refused does nothing. -/
theorem lands_of_error {e : PropertyError} (hx : w.assign p.object p.key a = .error e) (hq : Q w) :
    Lands n h p a w Q := by
  refine ⟨.error e, w, fun host k _ => ?_, hq⟩
  obtain ⟨f, hf⟩ := write_eq_writeThen host k
  change host.write k h p.object p.key a w = _
  rw [hf]
  unfold Host.writeThen
  rw [hx]

/-- A write of which nobody is told ends there. -/
theorem lands_of_quiet {x : World.Written} (hx : w.assign p.object p.key a = .ok x)
    (hp : x.previous = none) (hq : Q x.world) : Lands n h p a w Q := by
  refine ⟨.ok (), x.world, fun host k _ => ?_, hq⟩
  obtain ⟨f, hf⟩ := write_eq_writeThen host k
  change host.write k h p.object p.key a w = _
  rw [hf]
  unfold Host.writeThen
  rw [hx]
  obtain ⟨world, _⟩ := x
  cases hp
  rfl

/-- A write of which somebody is told ends when all are told. -/
theorem lands_of_told {x : World.Written} (hx : w.assign p.object p.key a = .ok x)
    (hp : x.previous = some previous)
    (hu : Ends n (fun host k => host.publish (host.write k) (h.keep [.object p.object, a, previous])
      p.object p.key previous) x.world (.ok (), u)) (hq : Q u) : Lands (n + 1) h p a w Q := by
  refine ⟨.ok (), u, fun host k hk => ?_, hq⟩
  obtain ⟨k, rfl⟩ := Nat.exists_eq_add_of_le' (Nat.le_trans (Nat.le_add_left 1 n) hk)
  exact (writeThen_of_told hx hp).trans (hu host k (Nat.le_of_succ_le_succ hk))

/-! ## Telling -/

/-- A binding without a mapping that is told of a change writes what is at its source, unless one of
its ends is gone, the source cannot be read or the goal holds the value. -/
theorem exists_tell {b : Binding} (hb : b.mapping = none) (name : String)
    (idle : ((w.isAlive h b.source && w.isAlive h b.target) = true →
      ∀ a, (w.object b.source).getProperty b.sourceKey = .ok a →
        (w.object b.target).holds b.targetKey a = true) → Q w)
    (emit : ∀ u e, Q u → Q (u.emit e))
    (write : ∀ a, (w.object b.source).getProperty b.sourceKey = .ok a →
      ¬ (w.object b.target).holds b.targetKey a = true →
      Lands n (h.keep [.object b.source, .object b.target]) b.goal a w Q) :
    ∃ u, Ends n (fun host k => host.tell (host.write k) h name previous (.binding b)) w
      (.ok (), u) ∧ Q u := by
  -- what becomes of the subscriber is read off what becomes of the copy
  have told {r : Except BindingError Unit} {u : World}
      (hr : Ends n (fun host k => host.copyAlong (host.write k) h b) w (r, u)) (hq : Q u) :
      ∃ u, Ends n (fun host k => host.tell (host.write k) h name previous (.binding b)) w
        (.ok (), u) ∧ Q u := by
    cases r with
    | ok => exact ⟨u, fun host k hk => Host.tell_of_ok (hr host k hk) name previous, hq⟩
    | error e =>
      exact ⟨_, fun host k hk => Host.tell_of_error (hr host k hk) name previous, emit u _ hq⟩
  by_cases alive : (w.isAlive h b.source && w.isAlive h b.target) = true
  case neg =>
    exact told (fun host k _ => Host.copyAlong_runIn_of_gone host _ alive)
      (idle fun h => absurd h alive)
  cases source : (w.object b.source).getProperty b.sourceKey with
  | error e =>
    refine told (r := .error (.property e)) (fun host k _ => ?_) (idle fun _ a ha => ?_)
    · unfold Host.copyAlong
      simp only [Op.bind_runIn, Op.read_runIn, alive, if_true, Op.mapError_runIn, Op.check_runIn,
        source]
    · cases source.symm.trans ha
  | ok a =>
    have run (host : Host) (k : Nat) :=
      Host.copyAlong_runIn_of_unmapped host (host.write k) hb alive source
    by_cases holds : (w.object b.target).holds b.targetKey a = true
    · refine told (fun host k _ => (run host k).trans (if_pos holds)) (idle fun _ c hc => ?_)
      cases source.symm.trans hc
      exact holds
    · obtain ⟨r, u, hu, hq⟩ := write a source holds
      cases r with
      | ok =>
        refine told (r := .ok ()) (fun host k hk => ?_) hq
        rw [run]
        exact (if_neg holds).trans (Op.mapError_runIn_eq_ok.2 (hu host k hk))
      | error e =>
        refine told (r := .error (.property e)) (fun host k hk => ?_) hq
        rw [run]
        exact (if_neg holds).trans (Op.mapError_runIn_of_error (hu host k hk))

/-- Some subscribers are told one after the other; `I` is what holds when the first of them have
been told. -/
theorem exists_tell_all {subscribers : List Subscriber} (name : String)
    (I : List Subscriber → World → Prop) (hw : I [] w)
    (step : ∀ told s rest v, subscribers = told ++ s :: rest → I told v →
      ∃ u, Ends n (fun host k => host.tell (host.write k) h name previous s) v (.ok (), u) ∧
        I (told ++ [s]) u) :
    ∃ u, Ends n (fun host k => subscribers.forM (host.tell (host.write k) h name previous)) w
      (.ok (), u) ∧ I subscribers u := by
  -- the induction is on those who are still to be told
  suffices all : ∀ rest told v, subscribers = told ++ rest → I told v →
      ∃ u, Ends n (fun host k => rest.forM (host.tell (host.write k) h name previous)) v
        (.ok (), u) ∧ I subscribers u from all subscribers [] w rfl hw
  intro rest
  induction rest with
  | nil =>
    intro told v hs hv
    rw [List.append_nil] at hs
    exact ⟨v, fun _ _ _ => rfl, hs ▸ hv⟩
  | cons s rest ih =>
    intro told v hs hv
    obtain ⟨v', hv', first⟩ := step told s rest v hs hv
    obtain ⟨u, hu, last⟩ := ih (told ++ [s]) v' (by rw [hs, List.append_assoc]; rfl) first
    refine ⟨u, fun host k hk => ?_, last⟩
    rw [Op.forM_cons_runIn_of_ok (hv' host k hk)]
    exact hu host k hk

/-- All who subscribed to a place are told one after the other. -/
theorem exists_publish (I : List Subscriber → World → Prop) (hw : I [] w)
    (step : ∀ told s rest v, (w.object p.object).subscribersOf p.key = told ++ s :: rest →
      I told v → ∃ u, Ends n (fun host k => host.tell (host.write k) h p.key previous s) v
        (.ok (), u) ∧ I (told ++ [s]) u) :
    ∃ u, Ends n (fun host k => host.publish (host.write k) h p.object p.key previous) w
      (.ok (), u) ∧ I ((w.object p.object).subscribersOf p.key) u := by
  obtain ⟨u, hu, hi⟩ := exists_tell_all p.key I hw step
  refine ⟨u, fun host k hk => ?_, hi⟩
  unfold Host.publish
  rw [Op.bind_runIn, Op.read_runIn]
  exact hu host k hk

end

end Bxml
