import Bxml.Proofs.Propagation
import Mathlib.Data.List.Flatten

/-!
# How far a change spreads

A write passes its value on depth first: from a place that changed to the goals of its bindings, as
far as these do not hold the value yet.  The places that change are those to which bindings lead from
the place written through places that held another value, in circles and across diamonds too, and
every one of them is told of once: `exists_spread`.

* `World.Reached` are these places, as an inductive relation on the world before the write.
* `Spread`, `Told` and `Changed` say what becomes of a world along the way: which places came to
  hold the value, that these hand it on (`HandedOn`), and what was reported.
* `spreading` is the induction, by the nesting that is left and one lemma for each step
  (`exists_copyAlong`, `exists_tell`, `exists_tell_all`).

Depth first is what makes it hard: when a place changes, the places that other subscribers would
have reached may have changed already.  So the relation is stated for the world in which a
subscriber is told, and `Reached.mono` compares it with the one at the beginning.
-/

namespace Bxml

open Relation (ReflTransGen)

/-! ## What is connected -/

/-- The binding among the subscribers that a subscriber is. -/
def Subscriber.binding? : Subscriber → Option Binding
  | .binding b => some b
  | .watcher _ => none

/-- What a subscriber reports when a property that held `previous` has changed. -/
def Subscriber.report? (name : String) (previous : Value) : Subscriber → Option Event
  | .watcher label => some (.changed label name previous)
  | .binding _ => none

namespace World

/-- All bindings that are installed. -/
def bindings (w : World) : List Binding :=
  w.objects.toList.flatMap fun x => x.subscribers.filterMap fun p => p.2.binding?

/-- Whether a binding that is told of changes of one place leads to another. -/
def Connected (w : World) (p q : Place) : Prop :=
  ∃ b, .binding b ∈ (w.object p.object).subscribersOf p.key ∧ b.goal = q

/-- What is reported when the value at a place is replaced. -/
def reports (w : World) (p : Place) : List Event :=
  ((w.object p.object).subscribersOf p.key).filterMap (·.report? p.key (w.value p))

/-- Whether connections lead from `p` to a place, all the way through places that hold another value
than `a`. -/
inductive Reached (w : World) (a : Value) (p : Place) : Place → Prop
  | start : ¬ (w.value p == a) = true → Reached w a p p
  | step {q r : Place} : Reached w a p q → w.Connected q r → ¬ (w.value r == a) = true →
    Reached w a p r

variable {w u v : World} {a c : Value} {p q r : Place}

theorem mem_bindings {b : Binding} (h : .binding b ∈ (w.object p.object).subscribersOf p.key) :
    b ∈ w.bindings := by
  unfold Object.subscribersOf at h
  obtain ⟨⟨k, s⟩, hs, rfl⟩ := List.mem_map.1 h
  have hx := (List.mem_filter.1 hs).1
  have ho : p.object.index < w.objects.size := by
    by_contra hn
    unfold object at hx
    rw [Array.getD_eq_getD_getElem?, Array.getElem?_eq_none (Nat.le_of_not_lt hn)] at hx
    cases hx
  refine List.mem_flatMap.2 ⟨w.object p.object, ?_, List.mem_filterMap.2 ⟨_, hx, rfl⟩⟩
  unfold object
  rw [Array.getD_eq_getD_getElem?, Array.getElem?_eq_getElem ho]
  exact Array.mem_toList_iff.2 (Array.getElem_mem ho)

theorem Reached.not_beq (h : w.Reached a p q) : ¬ (w.value q == a) = true := by
  cases h with
  | start h => exact h
  | step _ _ h => exact h

/-- The way to a place may begin with one connection more. -/
theorem Reached.head (hp : ¬ (w.value p == a) = true) (hc : w.Connected p q)
    (h : w.Reached a q r) : w.Reached a p r := by
  induction h with
  | start hq => exact (Reached.start hp).step hc hq
  | step _ hc' hr ih => exact ih.step hc' hr

theorem connected_congr (h : ∀ o, (u.object o).subscribers = (w.object o).subscribers) :
    u.Connected p q ↔ w.Connected p q := by
  unfold Connected Object.subscribersOf
  rw [h]

/-- Where fewer places hold another value, fewer are reached. -/
theorem Reached.mono (h : u.Reached a p q)
    (hs : ∀ o, (u.object o).subscribers = (w.object o).subscribers)
    (hv : ∀ q, ¬ (u.value q == a) = true → ¬ (w.value q == a) = true) : w.Reached a p q := by
  induction h with
  | start h => exact .start (hv _ h)
  | step _ hc h ih => exact ih.step ((connected_congr hs).1 hc) (hv _ h)

theorem reports_congr (hs : ∀ o, (u.object o).subscribers = (w.object o).subscribers)
    (hv : u.value p = w.value p) : u.reports p = w.reports p := by
  unfold reports Object.subscribersOf
  rw [hs, hv]

/-! ## What an assignment replaces -/

/-- Somebody is told of an assignment if it replaces another value, and what that was. -/
theorem previous_of_assign {x : Written} (h : w.TakesAny p)
    (hx : w.assign p.object p.key a = .ok x) :
    (¬ (w.value p == a) = true → x.previous = some (w.value p)) ∧
      ((w.object p.object).hasProperty p.key = true → (w.value p == a) = true →
        x.previous = none) := by
  unfold TakesAny at h
  unfold assign at hx
  unfold value Object.getProperty Object.hasProperty
  cases hc : (w.object p.object).content with
  | list items =>
    rw [hc] at h
    exact h.elim
  | bean b =>
    rw [hc] at h hx
    obtain ⟨previous, hs⟩ := h
    simp only [hs, ValueType.coerce, ValueType.convert?] at hx
    cases hx
    simp only [hs, Option.bind_some, Slot.value?, Except.toOption, Option.getD_some]
    exact ⟨fun hn => if_neg hn, fun _ hp => if_pos hp⟩
  | dictionary d =>
    rw [hc] at hx
    cases hx
    unfold storeKey
    simp only [Except.toOption, Option.getD_some, ← Entries.isSome_get?]
    cases d.entries.get? p.key with
    | none => exact ⟨fun _ => rfl, fun hn => Bool.noConfusion hn⟩
    | some previous => exact ⟨fun hn => if_neg hn, fun _ hp => if_pos hp⟩

theorem trace_of_assign {o : ObjectId} {k : String} {x : Written} (h : w.assign o k a = .ok x) :
    x.world.trace = w.trace := by
  obtain ⟨f, hf⟩ := exists_modify_of_assign h
  rw [hf]
  rfl

/-! ## What a change leaves behind -/

/-- What becomes of a world when the places `ps` come to hold `a` one after the other and are
reported, in addition to the events `told`. -/
structure Spread (w : World) (a : Value) (told : List Event) (ps : List Place) (u : World) :
    Prop where
  nodup : ps.Nodup
  other : ∀ q ∈ ps, ¬ (w.value q == a) = true
  arrived : ∀ q ∈ ps, (u.value q == a) = true
  kept : ∀ q ∉ ps, u.value q = w.value q
  subscribers : ∀ o, (u.object o).subscribers = (w.object o).subscribers
  reported : ∃ events, u.trace.toList = w.trace.toList ++ events ∧
    events.Perm (told ++ ps.flatMap w.reports)

namespace Spread

variable {told told' : List Event} {ps qs : List Place}

theorem refl (w : World) (a : Value) : w.Spread a [] [] w where
  nodup := .nil
  other := List.forall_mem_nil _
  arrived := List.forall_mem_nil _
  kept _ _ := rfl
  subscribers _ := rfl
  reported := ⟨[], (List.append_nil _).symm, .nil⟩

/-- No place comes to hold another value than `a`. -/
theorem not_beq (h : w.Spread a told ps u) (hq : ¬ (u.value q == a) = true) :
    ¬ (w.value q == a) = true := by
  by_cases hp : q ∈ ps
  · exact h.other q hp
  · rwa [h.kept q hp] at hq

theorem beq (h : w.Spread a told ps u) (hq : (w.value q == a) = true) : (u.value q == a) = true :=
  of_not_not fun hn => h.not_beq hn hq

theorem spreads (h : w.Spread a told ps u) : World.Spreads a w u := by
  intro q
  by_cases hq : q ∈ ps
  · exact .inr (h.arrived q hq)
  · exact .inl (h.kept q hq)

theorem trans (h : w.Spread a told ps u) (k : u.Spread a told' qs v) :
    w.Spread a (told ++ told') (ps ++ qs) v where
  nodup := by
    refine List.nodup_append'.2 ⟨h.nodup, k.nodup, fun q hp hq => ?_⟩
    exact k.other q hq (h.arrived q hp)
  other := by
    intro q hq
    rcases List.mem_append.1 hq with hq | hq
    · exact h.other q hq
    · exact h.not_beq (k.other q hq)
  arrived := by
    intro q hq
    rcases List.mem_append.1 hq with hq | hq
    · exact k.beq (h.arrived q hq)
    · exact k.arrived q hq
  kept q hq := by
    rw [List.mem_append, not_or] at hq
    rw [k.kept q hq.2, h.kept q hq.1]
  subscribers o := (k.subscribers o).trans (h.subscribers o)
  reported := by
    obtain ⟨events, he, hp⟩ := h.reported
    obtain ⟨events', he', hp'⟩ := k.reported
    refine ⟨events ++ events', by rw [he', he, List.append_assoc], ?_⟩
    -- the places that come later held the same values before
    have reports : qs.flatMap u.reports = qs.flatMap w.reports := by
      refine List.flatMap_congr fun q hq => reports_congr h.subscribers (h.kept q fun hp => ?_)
      exact k.other q hq (h.arrived q hp)
    rw [reports] at hp'
    have swap : ((ps.flatMap w.reports) ++ (told' ++ qs.flatMap w.reports)).Perm
        (told' ++ (ps.flatMap w.reports ++ qs.flatMap w.reports)) := by
      rw [← List.append_assoc, ← List.append_assoc]
      exact List.perm_append_comm.append_right _
    calc (events ++ events').Perm
          ((told ++ ps.flatMap w.reports) ++ (told' ++ qs.flatMap w.reports)) := hp.append hp'
      _ = told ++ (ps.flatMap w.reports ++ (told' ++ qs.flatMap w.reports)) :=
          List.append_assoc _ _ _
      List.Perm _ (told ++ (told' ++ (ps.flatMap w.reports ++ qs.flatMap w.reports))) :=
          swap.append_left _
      _ = (told ++ told') ++ (ps ++ qs).flatMap w.reports := by
          rw [List.flatMap_append, List.append_assoc]

/-- An event is reported besides. -/
theorem emit (e : Event) (w : World) (a : Value) : w.Spread a [e] [] (w.emit e) where
  nodup := .nil
  other := List.forall_mem_nil _
  arrived := List.forall_mem_nil _
  kept _ _ := rfl
  subscribers _ := rfl
  reported := ⟨[e], Array.toList_push, .refl _⟩

/-- The place `p` is assigned `c`, and then the change spreads on and is reported. -/
theorem of_assigned {x : Written} (hp : ¬ (w.value p == a) = true) (hc : (c == a) = true)
    (ht : x.world.trace = w.trace) (hx : Assigned w p c x)
    (h : x.world.Spread a (w.reports p) ps u) : w.Spread a [] (p :: ps) u := by
  have self : (x.world.value p == a) = true := by
    rw [hx.value_self]
    exact hc
  have hps : p ∉ ps := fun hm => h.other p hm self
  have before {q : Place} (hq : q ∈ ps) : x.world.value q = w.value q :=
    hx.value_of_ne q fun e => hps (e ▸ hq)
  refine ⟨List.nodup_cons.2 ⟨hps, h.nodup⟩, ?_, ?_, ?_, ?_, ?_⟩
  · rintro q (_ | ⟨_, hq⟩)
    · exact hp
    · rw [← before hq]
      exact h.other q hq
  · rintro q (_ | ⟨_, hq⟩)
    · exact h.beq self
    · exact h.arrived q hq
  · intro q hq
    rw [List.mem_cons, not_or] at hq
    rw [h.kept q hq.2, hx.value_of_ne q hq.1]
  · exact fun o => (h.subscribers o).trans (hx.subscribers o)
  · obtain ⟨events, he, hperm⟩ := h.reported
    have reports : ps.flatMap x.world.reports = ps.flatMap w.reports :=
      List.flatMap_congr fun q hq => reports_congr hx.subscribers (before hq)
    rw [ht] at he
    rw [reports] at hperm
    exact ⟨events, he, hperm⟩

end Spread

end World

namespace Scene

variable {S : Scene} {w u : World} {h : Held} {a c : Value} {p q : Place} {b : Binding}

/-- Whether a world of a scene is one in which the value `a` spreads: the places of the scene take any
value, and those who are told of their changes copy them to other places of the scene or just
report them. -/
structure Carries (S : Scene) (a : Value) (w : World) : Prop where
  may : ∀ v p c, S.places p → (c == a) = true → S.may v p c
  reached : World.Reaches S.may S.start w
  takesAny : ∀ p, S.places p → w.TakesAny p
  wired : ∀ p, S.places p → ∀ b, .binding b ∈ (w.object p.object).subscribersOf p.key →
    b.origin = p ∧ b.mapping = none ∧ S.places b.goal
  bindings : ∀ p, S.places p → ∀ b, .binding b ∈ (w.object p.object).subscribersOf p.key →
    b ∈ S.start.bindings

namespace Carries

variable (hw : S.Carries a w)

include hw

theorem isAlive (hp : S.places p) (hh : S.core.Within h) : w.isAlive h p.object = true :=
  World.isAlive_of_within hh (S.alive hw.reached hp)

theorem lt_size (hp : S.places p) : p.object.index < w.objects.size :=
  World.lt_size_of_isAlive (S.alive hw.reached hp)

theorem emit (e : Event) : S.Carries a (w.emit e) :=
  { hw with reached := hw.reached.tail (.emit w e) }

theorem assigned {x : World.Written} (hp : S.places p) (hc : (c == a) = true)
    (hx : w.assign p.object p.key c = .ok x) (has : World.Assigned w p c x) :
    S.Carries a x.world where
  may := hw.may
  reached := hw.reached.tail (.write (hw.may w p c hp hc) hx)
  takesAny q hq := has.takesAny q (hw.takesAny q hq)
  wired q hq := by
    unfold Object.subscribersOf
    rw [has.subscribers]
    exact hw.wired q hq
  bindings q hq := by
    unfold Object.subscribersOf
    rw [has.subscribers]
    exact hw.bindings q hq

end Carries

/-- Whether some places that come to hold `a` hand it on: wherever a connection leads from them,
there it is. -/
def HandedOn (w : World) (a : Value) (ps : List Place) (u : World) : Prop :=
  ∀ q ∈ ps, ∀ r, w.Connected q r → (u.value r == a) = true

/-- What becomes of a world in which somebody is told that `p` has changed to `a`: the value spreads
to the places `ps`, which can be reached from the goals of `p`. -/
structure Told (S : Scene) (w : World) (a : Value) (p : Place) (told : List Event) (ps : List Place)
    (u : World) : Prop where
  carries : S.Carries a u
  spread : w.Spread a told ps u
  handedOn : HandedOn w a ps u
  reached : ∀ q ∈ ps, ∃ r, w.Connected p r ∧ w.Reached a r q

/-- What becomes of a world when `p`, which held another value, comes to hold `a`: that spreads to the
places `ps`, which can be reached from `p`. -/
structure Changed (S : Scene) (w : World) (a : Value) (p : Place) (ps : List Place) (u : World) :
    Prop where
  carries : S.Carries a u
  spread : w.Spread a [] (p :: ps) u
  handedOn : HandedOn w a (p :: ps) u
  reached : ∀ q ∈ p :: ps, w.Reached a p q

/-- Whether writes spread `a`, provided that at most `n` goals hold another value, however much
nesting a host allows beyond that. -/
def Spreading (S : Scene) (a : Value) (n : Nat) : Prop :=
  ∀ {h w p c}, S.Carries a w → S.core.Within h → S.places p → (c == a) = true →
    ¬ (w.value p == a) = true →
    (∀ x, w.assign p.object p.key c = .ok x → x.world.behind S.start.bindings a < n) →
    ∃ u ps, (∀ (host : Host) (k : Nat), n ≤ k →
        (host.write k h p.object p.key c).runIn w = (.ok (), u)) ∧ S.Changed w a p ps u

theorem Told.trans {told told' : List Event} {ps qs : List Place} {v : World}
    (h : S.Told w a p told ps u) (k : S.Told u a p told' qs v) :
    S.Told w a p (told ++ told') (ps ++ qs) v where
  carries := k.carries
  spread := h.spread.trans k.spread
  handedOn q hq r hr := by
    rcases List.mem_append.1 hq with hq | hq
    · exact k.spread.beq (h.handedOn q hq r hr)
    · exact k.handedOn q hq r ((World.connected_congr h.spread.subscribers).2 hr)
  reached q hq := by
    rcases List.mem_append.1 hq with hq | hq
    · exact h.reached q hq
    · obtain ⟨r, hc, hr⟩ := k.reached q hq
      exact ⟨r, (World.connected_congr h.spread.subscribers).1 hc,
        hr.mono h.spread.subscribers fun _ => h.spread.not_beq⟩

theorem Told.refl (hw : S.Carries a w) : S.Told w a p [] [] w :=
  ⟨hw, .refl w a, List.forall_mem_nil _, List.forall_mem_nil _⟩

/-- A binding whose source has changed copies the value, unless it is at the goal already. -/
theorem exists_copyAlong {n : Nat} (spreading : S.Spreading a n) (hw : S.Carries a w)
    (hh : S.core.Within h) (hb : .binding b ∈ (w.object p.object).subscribersOf p.key)
    (hp : S.places p) (ha : (w.value p == a) = true)
    (hn : w.behind S.start.bindings a ≤ n) :
    ∃ u ps, (∀ (host : Host) (k : Nat), n ≤ k →
        (host.copyAlong (host.write k) h b).runIn w = (.ok (), u)) ∧
      S.Told w a p [] ps u ∧ (u.value b.goal == a) = true := by
  obtain ⟨origin, unmapped, goal⟩ := hw.wired p hp b hb
  have alive : (w.isAlive h b.source && w.isAlive h b.target) = true := by
    rw [Bool.and_eq_true]
    refine ⟨?_, hw.isAlive goal hh⟩
    have hs := hw.isAlive hp hh
    rwa [← origin] at hs
  have source : (w.object b.source).getProperty b.sourceKey = .ok (w.value p) := by
    have hs := World.getProperty_of_takesAny (hw.takesAny p hp)
    rw [← origin] at hs ⊢
    exact hs
  have target : (w.object b.target).holds b.targetKey (w.value p) =
      (w.value b.goal == w.value p) := by
    unfold Object.holds
    have ht := World.getProperty_of_takesAny (hw.takesAny _ goal)
    change (w.object b.target).getProperty b.targetKey = _ at ht
    rw [ht]
  have run (host : Host) (k : Nat) : (host.copyAlong (host.write k) h b).runIn w =
      if (w.value b.goal == w.value p) = true then (.ok (), w)
      else ((host.write k (h.keep [.object b.source, .object b.target]) b.target b.targetKey
        (w.value p)).mapError .property).runIn w := by
    rw [Host.copyAlong_runIn_of_unmapped host _ unmapped alive source, target]
  by_cases hg : (w.value b.goal == w.value p) = true
  · refine ⟨w, [], fun host k _ => by rw [run, if_pos hg], .refl hw, Value.beq_trans hg ha⟩
  · have other : ¬ (w.value b.goal == a) = true := fun he =>
      hg (Value.beq_trans he (by rwa [Value.beq_comm]))
    -- one goal less holds another value after the assignment
    have fewer : ∀ x, w.assign b.target b.targetKey (w.value p) = .ok x →
        x.world.behind S.start.bindings a < n := by
      intro x hx
      obtain ⟨x', hx', assigned⟩ := World.assign_of_takesAny (hw.lt_size goal)
        (hw.takesAny _ goal) (w.value p)
      cases hx.symm.trans hx'
      have self : (x.world.value b.goal == a) = true := by
        rw [assigned.value_self]
        exact ha
      have spreads : World.Spreads a w x.world := by
        intro q
        by_cases hq : q = b.goal
        · exact .inr (hq ▸ self)
        · exact .inl (assigned.value_of_ne q hq)
      exact Nat.lt_of_lt_of_le (spreads.behind_lt (hw.bindings p hp b hb) other self) hn
    obtain ⟨u, ps, hu, changed⟩ := spreading hw (hh.keep _) goal ha other fewer
    have connected : w.Connected p b.goal := ⟨b, hb, rfl⟩
    refine ⟨u, b.goal :: ps, fun host k hk => ?_, ⟨changed.carries, changed.spread,
      changed.handedOn, fun q hq => ⟨b.goal, connected, changed.reached q hq⟩⟩,
      changed.spread.arrived _ List.mem_cons_self⟩
    rw [run, if_neg hg]
    exact Op.mapError_runIn_eq_ok.2 (hu host k hk)

/-- One subscriber is told that `p` has changed to `a`. -/
theorem exists_tell {n : Nat} (spreading : S.Spreading a n) (hw : S.Carries a w)
    (hh : S.core.Within h) {s : Subscriber} (hs : s ∈ (w.object p.object).subscribersOf p.key)
    (hp : S.places p) (ha : (w.value p == a) = true)
    (hn : w.behind S.start.bindings a ≤ n) (previous : Value) :
    ∃ u ps, (∀ (host : Host) (k : Nat), n ≤ k →
        (host.tell (host.write k) h p.key previous s).runIn w = (.ok (), u)) ∧
      S.Told w a p (s.report? p.key previous).toList ps u ∧
      ∀ b, s = .binding b → (u.value b.goal == a) = true := by
  cases s with
  | watcher label =>
    exact ⟨_, [], fun _ _ _ => rfl,
      ⟨hw.emit _, .emit _ w a, List.forall_mem_nil _, List.forall_mem_nil _⟩,
      fun _ hb => nomatch hb⟩
  | binding b =>
    obtain ⟨u, ps, hu, told, arrived⟩ := exists_copyAlong spreading hw hh hs hp ha hn
    refine ⟨u, ps, fun host k hk => Host.tell_of_ok (hu host k hk) p.key previous, told, ?_⟩
    rintro _ ⟨⟩
    exact arrived

/-- Some subscribers are told one after the other that `p` has changed to `a`. -/
theorem exists_tell_all {n : Nat} (spreading : S.Spreading a n) (hh : S.core.Within h)
    (hp : S.places p) (previous : Value) {told : List Subscriber} (hw : S.Carries a w)
    (ht : told ⊆ (w.object p.object).subscribersOf p.key) (ha : (w.value p == a) = true)
    (hn : w.behind S.start.bindings a ≤ n) :
    ∃ u ps, (∀ (host : Host) (k : Nat), n ≤ k →
        (told.forM (host.tell (host.write k) h p.key previous)).runIn w = (.ok (), u)) ∧
      S.Told w a p (told.filterMap (·.report? p.key previous)) ps u ∧
      ∀ b, .binding b ∈ told → (u.value b.goal == a) = true := by
  induction told generalizing w with
  | nil => exact ⟨w, [], fun _ _ _ => rfl, .refl hw, fun _ hb => nomatch hb⟩
  | cons s told ih =>
    obtain ⟨v, ps, hv, first, arrived⟩ :=
      exists_tell spreading hw hh (ht List.mem_cons_self) hp ha hn previous
    have subscribers : (v.object p.object).subscribersOf p.key =
        (w.object p.object).subscribersOf p.key := by
      unfold Object.subscribersOf
      rw [first.spread.subscribers]
    obtain ⟨u, qs, hu, rest, arrived'⟩ := ih first.carries
      (fun s hs => subscribers ▸ ht (List.mem_cons_of_mem _ hs)) (first.spread.beq ha)
      (Nat.le_trans (first.spread.spreads.behind_le _) hn)
    refine ⟨u, ps ++ qs, fun host k hk => ?_, ?_, fun b hb => ?_⟩
    · rw [Op.forM_cons_runIn_of_ok (hv host k hk)]
      exact hu host k hk
    · have both := first.trans rest
      cases hr : s.report? p.key previous with
      | none =>
        rw [List.filterMap_cons_none hr]
        rwa [hr] at both
      | some e =>
        rw [List.filterMap_cons_some hr]
        rwa [hr] at both
    · rcases List.mem_cons.1 hb with hb | hb
      · exact rest.spread.beq (arrived b hb.symm)
      · exact arrived' b hb

/-- What is written to a place that held another value spreads, whatever the bindings are. -/
theorem spreading (S : Scene) (a : Value) (n : Nat) : S.Spreading a n := by
  induction n with
  | zero =>
    intro h w p c hw _ hp _ _ hn
    obtain ⟨x, hx, -⟩ := World.assign_of_takesAny (hw.lt_size hp) (hw.takesAny p hp) c
    exact absurd (hn x hx) (Nat.not_lt_zero _)
  | succ n ih =>
    intro h w p c hw hh hp hc other hn
    obtain ⟨x, hx, assigned⟩ := World.assign_of_takesAny (hw.lt_size hp) (hw.takesAny p hp) c
    have replaced : ¬ (w.value p == c) = true := fun he => other (Value.beq_trans he hc)
    have previous := (World.previous_of_assign (hw.takesAny p hp) hx).1 replaced
    have self : (x.world.value p == a) = true := by
      rw [assigned.value_self]
      exact hc
    obtain ⟨u, ps, hu, told, arrived⟩ := exists_tell_all ih
      (hh.keep [.object p.object, c, w.value p]) hp (w.value p) (hw.assigned hp hc hx assigned)
      (List.Subset.refl _) self (Nat.le_of_lt_succ (hn x hx))
    have reports : ((x.world.object p.object).subscribersOf p.key).filterMap
        (·.report? p.key (w.value p)) = w.reports p := by
      unfold World.reports Object.subscribersOf
      rw [assigned.subscribers]
    rw [reports] at told
    have spread := World.Spread.of_assigned other hc (World.trace_of_assign hx) assigned told.spread
    refine ⟨u, ps, fun host k hk => ?_, told.carries, spread, ?_, ?_⟩
    · obtain ⟨k, rfl⟩ := Nat.exists_eq_add_one_of_ne_zero (Nat.ne_zero_of_lt hk)
      unfold Op.runIn Host.write Host.writeThen
      rw [hx]
      obtain ⟨world, _⟩ := x
      cases previous
      unfold Host.publish
      exact hu host k (Nat.le_of_succ_le_succ hk)
    · rintro q (_ | ⟨_, hq⟩) r hr
      · obtain ⟨b, hb, rfl⟩ := (World.connected_congr assigned.subscribers).2 hr
        exact arrived b hb
      · exact told.handedOn q hq r ((World.connected_congr assigned.subscribers).2 hr)
    · have fewer (q : Place) (hq : ¬ (x.world.value q == a) = true) :
          ¬ (w.value q == a) = true := by
        by_cases he : q = p
        · exact absurd self (he ▸ hq)
        · rwa [assigned.value_of_ne q he] at hq
      rintro q (_ | ⟨_, hq⟩)
      · exact .start other
      · obtain ⟨r, hr, hq⟩ := told.reached q hq
        exact (hq.mono assigned.subscribers fewer).head other
          ((World.connected_congr assigned.subscribers).1 hr)

end Scene

namespace World

/-- Whether the bindings behind a place have no mapping functions and connect places that take any
value and whose objects stay alive as long as nothing but `a` is written there. -/
structure Wired (w : World) (h : Held) (a : Value) (p : Place) : Prop where
  takesAny : ∀ q, ReflTransGen w.Connected p q → w.TakesAny q
  bindings : ∀ q, ReflTransGen w.Connected p q →
    ∀ b, .binding b ∈ (w.object q.object).subscribersOf q.key → b.origin = q ∧ b.mapping = none
  alive : ∀ {v q}, Reaches (fun _ q c => ReflTransGen w.Connected p q ∧ (c == a) = true) w v →
    ReflTransGen w.Connected p q → v.isAlive h q.object = true

variable {w : World} {h : Held} {a : Value} {p : Place}

/-- The places behind a place as a scene. -/
def Wired.scene (hw : w.Wired h a p) : Scene where
  start := w
  core := h
  places := ReflTransGen w.Connected p
  may _ q c := ReflTransGen w.Connected p q ∧ (c == a) = true
  alive := hw.alive

theorem Wired.carries (hw : w.Wired h a p) : hw.scene.Carries a w where
  may _ _ _ hp hc := ⟨hp, hc⟩
  reached := .refl
  takesAny := hw.takesAny
  wired q hq b hb := by
    obtain ⟨origin, unmapped⟩ := hw.bindings q hq b hb
    exact ⟨origin, unmapped, hq.tail ⟨b, hb, rfl⟩⟩
  bindings _ _ _ := mem_bindings

/-- A value `a` that is written to a defined property comes to exactly the places that are reached
from there, each of which is reported once with the value it held before; all other places keep their
values. The outcome does not depend on how much nesting a host allows, if that is more than there
are bindings. -/
theorem exists_spread (hw : w.Wired h a p)
    (hp : (w.object p.object).hasProperty p.key = true) (ha : a.isNumberOrOther = true) :
    ∃ (u : World) (changed : List Place) (events : List Event),
      (∀ host : Host, w.bindings.length < host.nesting →
        (host.setProperty h p.object p.key a).runIn w = (.ok (), u)) ∧
      u.exhausted = w.exhausted ∧
      changed.Nodup ∧ (∀ q, q ∈ changed ↔ w.Reached a p q) ∧
      (∀ q ∈ changed, (u.value q == a) = true) ∧
      (∀ q ∉ changed, u.value q = w.value q ∨
        q = p ∧ (w.value p == a) = true ∧ u.value p = a) ∧
      u.trace.toList = w.trace.toList ++ events ∧ events.Perm (changed.flatMap w.reports) := by
  have carries := hw.carries
  have start : ReflTransGen w.Connected p p := .refl
  have reflexive := Value.beq_self ha
  obtain ⟨x, hx, assigned⟩ :=
    assign_of_takesAny (carries.lt_size start) (hw.takesAny p start) a
  by_cases he : (w.value p == a) = true
  · -- nobody is told
    have previous := (previous_of_assign (hw.takesAny p start) hx).2 hp he
    refine ⟨x.world, [], [], fun host hn => ?_, ?_, .nil, fun q => ?_, List.forall_mem_nil _,
      fun q _ => ?_, ?_, .nil⟩
    · unfold Host.setProperty
      obtain ⟨n, hn⟩ := Nat.exists_eq_add_one_of_ne_zero (Nat.ne_zero_of_lt hn)
      rw [hn]
      unfold Op.runIn Host.write Host.writeThen
      rw [hx]
      obtain ⟨world, _⟩ := x
      cases previous
      rfl
    · have moved : Move hw.scene.may w _ := .write ⟨start, reflexive⟩ hx
      exact moved.sameFrame.exhausted
    · refine ⟨fun hq => (List.not_mem_nil hq).elim, fun hq => ?_⟩
      exfalso
      induction hq with
      | start hn => exact hn he
      | step _ _ _ ih => exact ih
    · by_cases hq : q = p
      · exact .inr ⟨hq, he, assigned.value_self⟩
      · exact .inl (assigned.value_of_ne q hq)
    · rw [trace_of_assign hx, List.append_nil]
  · have bound : ∀ x, w.assign p.object p.key a = .ok x →
        x.world.behind w.bindings a < w.bindings.length + 1 :=
      fun x _ => Nat.lt_succ_of_le (x.world.behind_le_length w.bindings a)
    obtain ⟨u, ps, hu, changed⟩ := hw.scene.spreading a (w.bindings.length + 1) carries
      ⟨List.Subset.refl _, List.Subset.refl _⟩ start reflexive he bound
    obtain ⟨events, trace, reports⟩ := changed.spread.reported
    refine ⟨u, p :: ps, events, fun host hn => hu host host.nesting hn, ?_,
      changed.spread.nodup, fun q => ⟨changed.reached q, fun hq => ?_⟩, changed.spread.arrived,
      fun q hq => .inl (changed.spread.kept q hq), trace, reports⟩
    · exact (Reaches.sameFrame changed.carries.reached).exhausted
    · induction hq with
      | start => exact List.mem_cons_self
      | @step q r _ hc hr ih =>
        -- where `q` handed the value on, it arrived only by a change
        by_contra hn
        have arrived := changed.handedOn q ih r hc
        rw [changed.spread.kept r hn] at arrived
        exact hr arrived

/-- Two places that are bound to each other, and a third one that holds the value already. -/
theorem exists_spread_circle :
    let dictionary (entries : Entries Value) (subscribers : List (String × Subscriber)) : Object :=
      ⟨.dictionary ⟨"A", entries, none⟩, subscribers⟩
    let binding (source target : Nat) : String × Subscriber :=
      ("x", .binding ⟨⟨source⟩, "x", ⟨target⟩, "x", none⟩)
    let w : World := {
      World.empty with
      objects := #[
        dictionary (.ofList [("x", .int 1)]) [("x", .watcher "a"), binding 0 1],
        dictionary .empty [binding 1 0, binding 1 2, ("x", .watcher "b")],
        dictionary (.ofList [("x", .int 2)]) [("x", .watcher "c"), binding 2 1]] }
    let held : Held := ⟨[.object ⟨0⟩, .object ⟨1⟩, .object ⟨2⟩], []⟩
    let p : Place := ⟨⟨0⟩, "x"⟩
    w.Wired held (.int 2) p ∧ (w.object p.object).hasProperty p.key = true ∧
      (Value.int 2).isNumberOrOther = true ∧
      ∃ u, (∀ host : Host, w.bindings.length < host.nesting →
          (host.setProperty held p.object p.key (.int 2)).runIn w = (.ok (), u)) ∧
        (u.value ⟨⟨1⟩, "x"⟩ == .int 2) = true ∧ u.value ⟨⟨2⟩, "x"⟩ = w.value ⟨⟨2⟩, "x"⟩ := by
  intro dictionary binding w held p
  let places : List Place := [p, ⟨⟨1⟩, "x"⟩, ⟨⟨2⟩, "x"⟩]
  have closed : ∀ q ∈ places,
      ∀ b ∈ ((w.object q.object).subscribersOf q.key).filterMap Subscriber.binding?,
        b.goal ∈ places ∧ b.origin = q ∧ b.mapping = none := by decide +kernel
  have wired : ∀ q ∈ places, ∀ b, .binding b ∈ (w.object q.object).subscribersOf q.key →
      b.goal ∈ places ∧ b.origin = q ∧ b.mapping = none :=
    fun q hq b hb => closed q hq b (List.mem_filterMap.2 ⟨_, hb, rfl⟩)
  have connected : ∀ q, ReflTransGen w.Connected p q → q ∈ places := by
    intro q hq
    induction hq with
    | refl => exact List.mem_cons_self
    | tail _ hc ih =>
      obtain ⟨b, hb, rfl⟩ := hc
      exact (wired _ ih b hb).1
  have hw : w.Wired held (.int 2) p := {
    takesAny := by
      intro q hq
      have hq := connected q hq
      simp only [places, List.mem_cons, List.not_mem_nil, or_false] at hq
      rcases hq with rfl | rfl | rfl <;> trivial
    bindings := fun q hq b hb => (wired q (connected q hq) b hb).2
    alive := by
      intro v q hv hq
      have size := (Reaches.sameFrame hv).size
      have hq := connected q hq
      simp only [places, List.mem_cons, List.not_mem_nil, or_false] at hq
      rcases hq with rfl | rfl | rfl <;>
        exact isAlive_of_held (by simp [held, p]) (by rw [size]; decide) }
  have hp : (w.object p.object).hasProperty p.key = true := by decide +kernel
  obtain ⟨u, changed, _, hu, -, -, reached, arrived, kept, -, -⟩ := exists_spread hw hp rfl
  refine ⟨hw, hp, rfl, u, hu, arrived _ ((reached _).2 ?_), ?_⟩
  · have hc : w.Connected p ⟨⟨1⟩, "x"⟩ :=
      ⟨⟨⟨0⟩, "x", ⟨1⟩, "x", none⟩, by decide +kernel, rfl⟩
    exact .step (.start (by decide +kernel)) hc (by decide +kernel)
  · have hn : ⟨⟨2⟩, "x"⟩ ∉ changed := fun hc =>
      ((reached _).1 hc).not_beq (by decide +kernel)
    rcases kept _ hn with h | ⟨h, -⟩
    · exact h
    · exact absurd h (by decide)

end World

end Bxml
