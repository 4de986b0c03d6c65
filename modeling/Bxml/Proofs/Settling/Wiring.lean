import Bxml.Proofs.Settling.Ends
import Bxml.Proofs.Spreading
import Bxml.Proofs.World.Slots

/-!
# Bindings without mappings

Where no binding has a mapping, a slot that is told of a change writes what it holds to others, and
each of them stores what this becomes as a value of its type.  Slots that store equal values for all
that is written to them change once at most: every such change leaves fewer of them restless.

* `Wiring` is a world with such bindings, and `Leads` says what writes of some values to its slots
  make of it.
* `Fixes` gives each type the one value that its slots store, and `restless` counts the bindings to
  slots that do not hold it yet: `restless_le` says that the count does not rise, and `restless_lt`
  that a change of such a slot lowers it.
* `exists_tell` and `exists_publish` follow a change to those who are told, with the values that
  come along as a parameter, for the flows of `Settling/Flow.lean`.
-/

namespace Bxml

/-- A world with bindings to slots of some types, none of which has a mapping. -/
structure Wiring where
  start : World
  types : ValueType → Prop
  wired : ∀ p b, .binding b ∈ (start.object p.object).subscribersOf p.key →
    b.origin = p ∧ b.mapping = none ∧ ∃ t, start.slotType? b.goal = some t ∧ types t

namespace Wiring

variable {N : Wiring} {V V' : Value → Prop} {w u v : World} {p q : Place} {a c : Value}
  {t : ValueType} {b : Binding} {h : Held} {k m n : Nat}

/-- Whether a world becomes another when some values are written to its slots. -/
structure Leads (N : Wiring) (V : Value → Prop) (w u : World) : Prop where
  subscribers : ∀ o, (u.object o).subscribers = (w.object o).subscribers
  slotType : ∀ p, u.slotType? p = w.slotType? p
  exhausted : u.exhausted = w.exhausted
  value : ∀ p, u.value p = w.value p ∨
    ∃ t a, w.slotType? p = some t ∧ N.types t ∧ V a ∧ t.stored? a = some (u.value p)

namespace Leads

theorem refl (w : World) : N.Leads V w w :=
  ⟨fun _ => rfl, fun _ => rfl, rfl, fun _ => .inl rfl⟩

theorem trans (h : N.Leads V w u) (k : N.Leads V u v) : N.Leads V w v where
  subscribers o := (k.subscribers o).trans (h.subscribers o)
  slotType p := (k.slotType p).trans (h.slotType p)
  exhausted := k.exhausted.trans h.exhausted
  value p := by
    rcases k.value p with kp | ⟨t, a, ht, rest⟩
    · rw [kp]
      exact h.value p
    · exact .inr ⟨t, a, (h.slotType p).symm.trans ht, rest⟩

theorem mono (h : N.Leads V w u) (sub : ∀ a, V a → V' a) : N.Leads V' w u where
  subscribers := h.subscribers
  slotType := h.slotType
  exhausted := h.exhausted
  value p := (h.value p).imp id fun ⟨t, a, ht, types, ha, hc⟩ => ⟨t, a, ht, types, sub a ha, hc⟩

theorem emit (h : N.Leads V w u) (e : Event) : N.Leads V w (u.emit e) :=
  ⟨h.subscribers, h.slotType, h.exhausted, h.value⟩

theorem of_stored {x : World.Written} (ht : w.slotType? p = some t) (htypes : N.types t)
    (ha : V a) (hc : t.stored? a = some c) (hx : World.Stored w p a c x) :
    N.Leads V w x.world where
  subscribers := hx.subscribers
  slotType := hx.slotType
  exhausted := hx.exhausted
  value q := by
    by_cases hq : q = p
    · rw [hq, hx.value_self]
      exact .inr ⟨t, a, ht, htypes, ha, hc⟩
    · exact .inl (hx.value_of_ne q hq)

/-- A slot that held such a value still does, if it stores nothing else for them. -/
theorem values (h : N.Leads V w u) (ht : w.slotType? p = some t)
    (closed : ∀ a c, N.types t → V a → t.stored? a = some c → V c) (hp : V (w.value p)) :
    V (u.value p) := by
  rcases h.value p with hv | ⟨_, a, ht', types, ha, hc⟩
  · rwa [hv]
  · cases ht.symm.trans ht'
    exact closed a _ types ha hc

theorem subscribersOf (h : N.Leads V w u) (o : ObjectId) (name : String) :
    (u.object o).subscribersOf name = (w.object o).subscribersOf name := by
  unfold Object.subscribersOf
  rw [h.subscribers]

end Leads

/-- Whether writes to slots lead from the start to a world. -/
def Reaches (N : Wiring) (w : World) : Prop := N.Leads (fun _ => True) N.start w

theorem Reaches.trans (hw : N.Reaches w) (h : N.Leads V w u) : N.Reaches u :=
  Leads.trans hw (h.mono fun _ _ => trivial)

/-! ## Restless slots -/

/-- Whether slots of some types store one value each for all of some values. -/
def Fixes (N : Wiring) (V : Value → Prop) (kinds : ValueType → Bool) (one : ValueType → Value) :
    Prop :=
  ∀ ⦃t a c⦄, N.types t → kinds t = true → V a → t.stored? a = some c → (c == one t) = true

section

variable {kinds : ValueType → Bool} {one : ValueType → Value}

/-- A slot that holds what it stores for all values goes on to do so. -/
theorem Leads.settled (h : N.Leads V w u) (fixes : N.Fixes V kinds one)
    (ht : w.slotType? p = some t) (hk : kinds t = true) (hp : (w.value p == one t) = true) :
    (u.value p == one t) = true := by
  rcases h.value p with hv | ⟨t', a, ht', types, ha, hc⟩
  · rwa [hv]
  · cases ht.symm.trans ht'
    exact fixes types hk ha hc

/-- Whether a binding leads to a slot of some types that does not hold what it will store. -/
def isRestless (N : Wiring) (kinds : ValueType → Bool) (one : ValueType → Value) (w : World)
    (b : Binding) : Bool :=
  match N.start.slotType? b.goal with
  | some t => kinds t && !(w.value b.goal == one t)
  | none => false

/-- How many bindings lead to restless slots of some types. -/
def restless (N : Wiring) (kinds : ValueType → Bool) (one : ValueType → Value) (w : World) : Nat :=
  N.start.bindings.countP (N.isRestless kinds one w)

/-- Whether a binding leads to the place, a slot of the type. -/
structure IsGoal (N : Wiring) (p : Place) (t : ValueType) : Prop where
  binding : ∃ b ∈ N.start.bindings, b.goal = p
  slotType : N.start.slotType? p = some t
  types : N.types t

theorem isRestless_eq (ht : N.start.slotType? b.goal = some t) :
    N.isRestless kinds one w b = (kinds t && !(w.value b.goal == one t)) := by
  unfold isRestless
  rw [ht]

theorem isRestless_of_leads (fixes : N.Fixes V kinds one) (hw : N.Reaches w)
    (h : N.Leads V w u) (hb : N.isRestless kinds one u b = true) :
    N.isRestless kinds one w b = true := by
  cases ht : N.start.slotType? b.goal with
  | none =>
    unfold isRestless at hb
    rw [ht] at hb
    cases hb
  | some t =>
    rw [isRestless_eq ht, Bool.and_eq_true] at hb ⊢
    refine ⟨hb.1, ?_⟩
    have other := hb.2
    rw [Bool.not_eq_true'] at other ⊢
    refine Bool.eq_false_iff.2 fun hv => ?_
    rw [h.settled fixes ((hw.slotType _).trans ht) hb.1 hv] at other
    cases other

theorem restless_le (fixes : N.Fixes V kinds one) (hw : N.Reaches w)
    (h : N.Leads V w u) : N.restless kinds one u ≤ N.restless kinds one w :=
  List.countP_mono_left fun _ _ hb => isRestless_of_leads fixes hw h hb

theorem restless_le_length (N : Wiring) (kinds : ValueType → Bool) (one : ValueType → Value)
    (w : World) : N.restless kinds one w ≤ N.start.bindings.length :=
  List.countP_le_length

/-- A slot that comes to hold what it stores for all values is restless no more. -/
theorem restless_lt (fixes : N.Fixes V kinds one) (hw : N.Reaches w)
    (h : N.Leads V w u) (hp : N.IsGoal p t) (hk : kinds t = true)
    (hn : ¬ (w.value p == one t) = true) (hu : (u.value p == one t) = true) :
    N.restless kinds one u < N.restless kinds one w := by
  obtain ⟨b, hb, rfl⟩ := hp.binding
  refine countP_lt_of_mem (fun _ hc => isRestless_of_leads fixes hw h hc) hb ?_ ?_
  · rw [isRestless_eq hp.slotType, hu]
    simp
  · rw [isRestless_eq hp.slotType, hk]
    simpa using hn

end

/-! ## Telling -/

theorem isGoal_of_mem (hb : .binding b ∈ (N.start.object p.object).subscribersOf p.key) :
    ∃ t, N.IsGoal b.goal t := by
  obtain ⟨-, -, t, ht, types⟩ := N.wired p b hb
  exact ⟨t, ⟨b, World.mem_bindings hb, rfl⟩, ht, types⟩

theorem holds_of_leads (hw : N.Reaches w) (hp : N.IsGoal p t) :
    (w.object p.object).holds p.key a = (w.value p == a) := by
  unfold Object.holds
  rw [World.getProperty_of_slotType? ((hw.slotType p).trans hp.slotType)]

/-- Somebody is told of a change of a slot: a binding writes what is there to its goal, unless it is
there already; all others just report.  A binding both ends of which are held is not idle. -/
theorem exists_tell {s : Subscriber} {Q : World → Prop} (hw : N.Reaches w)
    (hp : w.slotType? p = some t) (hs : s ∈ (N.start.object p.object).subscribersOf p.key)
    (previous : Value)
    (idle : (∀ b, s = .binding b → .object p.object ∈ h.values → .object b.target ∈ h.values →
      (w.value b.goal == w.value p) = true) → Q w)
    (emit : ∀ u e, Q u → Q (u.emit e))
    (write : ∀ b, s = .binding b → .binding b ∈ (N.start.object p.object).subscribersOf p.key →
      ¬ (w.value b.goal == w.value p) = true →
      Lands n (h.keep [.object b.source, .object b.target]) b.goal (w.value p) w Q) :
    ∃ u, Ends n (fun host k => host.tell (host.write k) h p.key previous s) w (.ok (), u) ∧
      Q u := by
  cases s with
  | watcher label => exact ⟨_, fun _ _ _ => rfl, emit w _ (idle fun _ hb => nomatch hb)⟩
  | binding b =>
    obtain ⟨rfl, unmapped, -⟩ := N.wired p b hs
    obtain ⟨_, goal⟩ := isGoal_of_mem hs
    have source : (w.object b.source).getProperty b.sourceKey = .ok (w.value b.origin) :=
      World.getProperty_of_slotType? hp
    refine Bxml.exists_tell unmapped b.sourceKey (fun still => idle ?_) emit fun a ha hn => ?_
    · rintro b' ⟨⟩ hsource htarget
      have alive : (w.isAlive h b.source && w.isAlive h b.target) = true := by
        rw [Bool.and_eq_true]
        exact ⟨World.isAlive_of_held hsource (World.lt_size_of_slotType? hp),
          World.isAlive_of_held htarget
            (World.lt_size_of_slotType? ((hw.slotType b.goal).trans goal.slotType))⟩
      exact (holds_of_leads hw goal).symm.trans (still alive _ source)
    · cases ha.symm.trans source
      exact write b rfl hs fun he => hn ((holds_of_leads hw goal).trans he)

/-- All who subscribed to a slot are told of its change, if what each of them may write comes to an
end. -/
theorem exists_publish {Q : World → Prop} (hw : N.Reaches w) (hp : w.slotType? p = some t)
    (previous : Value) (start : Q w) (leads : ∀ u, Q u → N.Leads V w u)
    (emit : ∀ u e, Q u → Q (u.emit e))
    (write : ∀ (u : World) (b : Binding) (t' : ValueType), Q u → N.IsGoal b.goal t' →
      ¬ (u.value b.goal == u.value p) = true →
      Lands n (h.keep [.object b.source, .object b.target]) b.goal (u.value p) u Q) :
    ∃ u, Ends n (fun host k => host.publish (host.write k) h p.object p.key previous) w
      (.ok (), u) ∧ Q u := by
  refine Bxml.exists_publish (fun _ => Q) start fun told s rest v hs hv => ?_
  have hs : s ∈ (N.start.object p.object).subscribersOf p.key := by
    rw [← hw.subscribersOf, hs]
    exact List.mem_append_right _ List.mem_cons_self
  refine exists_tell (hw.trans (leads v hv)) (((leads v hv).slotType p).trans hp) hs previous
    (fun _ => hv) emit fun b _ hb hn => ?_
  obtain ⟨t', goal⟩ := isGoal_of_mem hb
  exact write v b t' hv goal hn

end Wiring

end Bxml
