import Bxml.Propagation
import Bxml.Proofs.World.Writing

/-!
# Writes that go no further

A write to a place of which no binding wants to know changes that place and nothing else, and those
who watch it report the change.

Three lemmas for the three ways in which a write can go: `write_of_refused`, `write_of_watched` and
`write_of_unheard`.  They are for histories of writes to objects that nothing is bound to
(`Observing/Idle.lean`), and hold however often changes may be passed on.
-/

namespace Bxml

namespace World

variable {w : World} {es : List Event}

/-- The world after some events. -/
def emitAll (w : World) (es : List Event) : World := es.foldl emit w

theorem emitAll_eq (w : World) (es : List Event) :
    w.emitAll es = { w with trace := w.trace ++ es.toArray } := by
  induction es generalizing w with
  | nil => simp [emitAll]
  | cons e es ih =>
    change (w.emit e).emitAll es = _
    rw [ih]
    simp [emit]

end World

/-- Whether an event reports a change to a watcher. -/
def Event.isChange : Event → Bool
  | .changed .. => true
  | _ => false

namespace Host

variable (host : Host) {w v : World} {h : Held} {o : ObjectId} {k : String} {p : Place}
  {a c : Value} {labels : List String} {write : Write}

/-- Watchers report a change and do nothing else. -/
theorem publish_of_watched (labels : List String)
    (hs : (w.object o).subscribersOf k = labels.map .watcher)
    (previous : Value) : (host.publish write h o k previous).runIn w =
      (.ok (), w.emitAll (labels.map (.changed · k previous))) := by
  unfold publish
  rw [Op.bind_runIn_of_ok (Op.read_runIn _ _), hs]
  clear hs
  induction labels generalizing w with
  | nil => rfl
  | cons label labels ih =>
    have first : (host.tell write h k previous (.watcher label)).runIn w =
        (.ok (), w.emit (.changed label k previous)) := rfl
    rw [List.map_cons, Op.forM_cons_runIn_of_ok first, ih]
    rfl

/-- A write that the place refuses fails and does nothing. -/
theorem write_of_refused (n : Nat) {e : PropertyError} (hc : w.converted p a = .error e) :
    (host.write n h p.object p.key a).runIn w = (.error e, w) := by
  have refused := World.assign_of_not_converted hc
  cases n <;> unfold Op.runIn write writeThen <;> rw [refused]

/-- A write that is not passed on stores the value and makes watchers report. -/
theorem write_of_watched (n : Nat) (ho : p.object.index < w.objects.size)
    (hc : w.converted p a = .ok c)
    (hs : (w.object p.object).subscribersOf p.key = labels.map .watcher) :
    ∃ v es, (host.write (n + 1) h p.object p.key a).runIn w = (.ok (), v.emitAll es) ∧
      w.Wrote p c v ∧ ∀ e ∈ es, e.isChange = true := by
  obtain ⟨⟨v, previous⟩, hx, wrote⟩ := World.assign_of_converted ho hc
  cases previous with
  | none =>
    refine ⟨v, [], ?_, wrote, List.forall_mem_nil _⟩
    unfold Op.runIn write writeThen
    rw [hx]
    rfl
  | some previous =>
    refine ⟨v, labels.map (.changed · p.key previous), ?_, wrote, ?_⟩
    · have told := (wrote.subscribersOf p.object p.key).trans hs
      unfold Op.runIn write writeThen
      rw [hx]
      exact host.publish_of_watched labels told previous
    · rintro e he
      obtain ⟨label, -, rfl⟩ := List.mem_map.1 he
      rfl

/-- A write of which nobody is told stores the value and does nothing else, however often changes
may be passed on. -/
theorem write_of_unheard (n : Nat) (ho : p.object.index < w.objects.size)
    (hc : w.converted p a = .ok c) (hs : (w.object p.object).subscribersOf p.key = []) :
    ∃ v, (host.write n h p.object p.key a).runIn w = (.ok (), v) ∧ w.Wrote p c v := by
  obtain ⟨⟨v, previous⟩, hx, wrote⟩ := World.assign_of_converted ho hc
  have unheard := (wrote.subscribersOf p.object p.key).trans hs
  refine ⟨v, ?_, wrote⟩
  cases n with
  | zero =>
    unfold Op.runIn write writeThen
    rw [hx]
    cases previous with
    | none => rfl
    | some previous =>
      change (Except.ok (), if _ then v else _) = _
      rw [unheard]
      rfl
  | succ n =>
    unfold Op.runIn write writeThen
    rw [hx]
    cases previous with
    | none => rfl
    | some previous => exact host.publish_of_watched [] unheard previous

end Host

end Bxml
