import Bxml.Proofs.Settling.Settled

/-!
# What grows never settles

A place that is bound to itself with a mapping function that never gives back what it was given has
no value at which it could settle: every change of it goes on for as long as it may.

`Grows` says what such a place is, and `exhausted_of_grows` that a change of it exhausts every host,
by induction on how often the host passes changes on.  `Load/Depth.lean` has a document with such a
place, whose load does not end.
-/

namespace Bxml

namespace World

variable {w : World} {p : Place} {a : Value} {h : Held} {host : Host}

/-- Whether a place stores every value as it is, and tells of its changes by a single binding, which
leads back to it and changes every value on the way. -/
structure Grows (host : Host) (w : World) (p : Place) : Prop where
  stores : w.slotType? p = some .any
  binding : ∃ m, (w.object p.object).subscribersOf p.key =
      [.binding ⟨p.object, p.key, p.object, p.key, some m⟩] ∧
    ∀ h a (v : World), ∃ c, (host.mapped h (some m) a).runIn v = (.ok c, v) ∧ ¬ (a == c) = true

theorem Grows.of_stored {x : Written} (hp : w.Grows host p) (hx : Stored w p a a x) :
    x.world.Grows host p where
  stores := (hx.slotType p).trans hp.stores
  binding := by
    unfold Object.subscribersOf
    rw [hx.subscribers]
    exact hp.binding

/-- A place that grows stores what it does not hold, and tells of it. -/
theorem Grows.told (hp : w.Grows host p) (other : ¬ (w.value p == a) = true) : ∃ x v,
    w.assign p.object p.key a = .ok x ∧ x.previous = some v ∧ x.world.value p = a ∧
      x.world.Grows host p := by
  obtain ⟨x, hx, stored⟩ := assign_of_stored hp.stores rfl
  obtain ⟨v, previous⟩ := Option.ne_none_iff_exists'.1 fun he => other (stored.quiet he)
  exact ⟨x, v, hx, previous, stored.value_self, hp.of_stored stored⟩

/-- A change of a place that grows goes on for as long as it may. -/
theorem exhausted_of_grows (n : Nat) (hp : w.Grows host p) (other : ¬ (w.value p == a) = true)
    (hh : .object p.object ∈ h.values) :
    ((host.write n h p.object p.key a).runIn w).2.exhausted = true := by
  induction n generalizing w a h with
  | zero =>
    obtain ⟨x, v, hx, previous, -, grows⟩ := hp.told other
    obtain ⟨m, subscribers, -⟩ := grows.binding
    rw [show host.write 0 = Host.writeThen Host.giveUp from rfl, writeThen_of_told hx previous]
    unfold Host.giveUp
    rw [Op.change_runIn, subscribers]
    rfl
  | succ n ih =>
    obtain ⟨x, v, hx, previous, value, grows⟩ := hp.told other
    obtain ⟨m, subscribers, changes⟩ := grows.binding
    let b : Binding := ⟨p.object, p.key, p.object, p.key, some m⟩
    have holds : x.world.value b.origin = a := value
    rw [show host.write (n + 1) = Host.writeThen (host.publish (host.write n)) from rfl,
      writeThen_of_told hx previous]
    -- the place holds `a` now, and the binding writes what the function makes of it
    obtain ⟨c, mapped, changed⟩ := changes _ a x.world
    refine exhausted_publish (b := b) host (host.write n) subscribers grows.stores grows.stores
      List.mem_cons_self List.mem_cons_self (holds.symm ▸ mapped) (holds.symm ▸ changed) ?_ v
    exact ih grows (value.symm ▸ changed) List.mem_cons_self

end World

end Bxml
