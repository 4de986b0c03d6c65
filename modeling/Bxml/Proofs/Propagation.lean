import Bxml.Propagation
import Bxml.Proofs.World.Alive
import Bxml.Proofs.World.Places
import Mathlib.Data.List.Nodup
import Mathlib.Logic.Relation

/-!
# Bindings settle

A write passes its value on along the bindings that start at the place written.  If every place is
the goal of one binding at most, each nested write brings the value to one goal more, so that the
passing on ends, in circles too; and it unsettles no binding but one whose goal was written from
outside.

* A `Scene` is a set of places whose objects stay alive, a `Network` some bindings that copy within
  it, no two of them to the same place, and `Holds` says that exactly these are installed.
* `behind` counts the goals that do not hold the value yet.  It is the measure: a goal that is
  reached is not behind any more (`Spreads.behind_lt`), and nothing falls back
  (`Spreads.behind_le`).
* `writes_write` is the induction, over the nesting that a host allows.  `Rests.exists_write` and
  `Rests.exists_copyAlong` are what the bindings of a document need of it (`Load/Bindings.lean`).

Other developments count other goals by the same steps: `World.Move` and `World.Reaches` say what
may happen to the world of a scene, and `countP_lt_of_mem` is their descent.
-/

namespace Bxml

/-- Fewer members of a list have a property if one of those that have another one lost it. -/
theorem countP_lt_of_mem {α : Type} {f g : α → Bool} {l : List α} {a : α}
    (h : ∀ b, f b = true → g b = true) (ha : a ∈ l) (hf : ¬ f a = true) (hg : g a = true) :
    l.countP f < l.countP g := by
  obtain ⟨front, rest, rfl⟩ := List.append_of_mem ha
  have hfront : front.countP f ≤ front.countP g := List.countP_mono_left fun b _ => h b
  have hrest : rest.countP f ≤ rest.countP g := List.countP_mono_left fun b _ => h b
  rw [List.countP_append, List.countP_append, List.countP_cons_of_neg hf,
    List.countP_cons_of_pos hg]
  omega

/-- The place a binding copies from. -/
def Binding.origin (b : Binding) : Place := ⟨b.source, b.sourceKey⟩

/-- The place a binding copies to. -/
def Binding.goal (b : Binding) : Place := ⟨b.target, b.targetKey⟩

/-- Whether the target of a binding holds a value that is equal to the one at its source. -/
def Binding.Settled (b : Binding) (w : World) : Prop :=
  ∃ a, (w.object b.source).getProperty b.sourceKey = .ok a ∧
    (w.object b.target).holds b.targetKey a = true

/-- The steps in which the world of a scene changes, where `may` tells what may be written. -/
inductive World.Move (may : World → Place → Value → Prop) : World → World → Prop
  | write {w : World} {p : Place} {a : Value} {x : World.Written} :
    may w p a → w.assign p.object p.key a = .ok x → Move may w x.world
  | subscribe (w : World) (o : ObjectId) (k : String) (s : Subscriber) :
    Move may w (w.subscribe o k s)
  | emit (w : World) (e : Event) : Move may w (w.emit e)

/-- Whether the world of a scene may become another. -/
abbrev World.Reaches (may : World → Place → Value → Prop) : World → World → Prop :=
  Relation.ReflTransGen (World.Move may)

/-- Whether a world has the same ids as another and as many objects, and was not exhausted since. -/
structure World.SameFrame (w v : World) : Prop where
  tables : v.tables = w.tables
  exhausted : v.exhausted = w.exhausted
  size : v.objects.size = w.objects.size

theorem World.Move.sameFrame {may : World → Place → Value → Prop} {w v : World}
    (h : World.Move may w v) : World.SameFrame w v := by
  cases h with
  | write _ ha =>
    obtain ⟨f, hf⟩ := World.exists_modify_of_assign ha
    rw [hf]
    exact ⟨rfl, rfl, Array.size_modify⟩
  | subscribe => exact ⟨rfl, rfl, Array.size_modify⟩
  | emit => exact ⟨rfl, rfl, rfl⟩

theorem World.Reaches.sameFrame {may : World → Place → Value → Prop} {w v : World}
    (h : World.Reaches may w v) : World.SameFrame w v := by
  induction h with
  | refl => exact ⟨rfl, rfl, rfl⟩
  | tail _ m ih =>
    have hm := m.sameFrame
    exact ⟨hm.tables.trans ih.tables, hm.exhausted.trans ih.exhausted, hm.size.trans ih.size⟩

/-- Places whose objects stay alive as long as nothing is written but what may be. -/
structure Scene where
  start : World
  /-- What is held all the time. -/
  core : Held
  places : Place → Prop
  /-- What may be written where. -/
  may : World → Place → Value → Prop
  alive {v : World} {p : Place} : World.Reaches may start v → places p →
    v.isAlive core p.object = true

namespace World

variable {w v : World} {a c : Value} {bs : List Binding} {b : Binding}

/-- How many bindings lead to a place that does not hold `a` yet. -/
def behind (w : World) (bs : List Binding) (a : Value) : Nat :=
  bs.countP fun b => !(w.value b.goal == a)

theorem behind_le_length (w : World) (bs : List Binding) (a : Value) :
    w.behind bs a ≤ bs.length := List.countP_le_length

theorem behind_congr (h : (a == c) = true) : w.behind bs a = w.behind bs c := by
  refine List.countP_congr fun b _ => ?_
  have key : (w.value b.goal == a) = true ↔ (w.value b.goal == c) = true :=
    ⟨fun hb => Value.beq_trans hb h, fun hb => Value.beq_trans hb (by rwa [Value.beq_comm])⟩
  cases ha : w.value b.goal == a <;> cases hc : w.value b.goal == c <;> simp_all

/-- What becomes of the values of a world in which `a` spreads. -/
def Spreads (a : Value) (w v : World) : Prop := ∀ p, v.value p = w.value p ∨ (v.value p == a) = true

theorem Spreads.trans {u : World} (h : Spreads a w u) (k : Spreads c u v) (hc : (c == a) = true) :
    Spreads a w v := by
  intro p
  rcases k p with kp | kp
  · rw [kp]
    exact h p
  · exact .inr (Value.beq_trans kp hc)

theorem Spreads.value_beq (h : Spreads a w v) {p : Place} (hp : (w.value p == a) = true) :
    (v.value p == a) = true := by
  rcases h p with h | h
  · rwa [h]
  · exact h

/-- A goal that is behind after `a` has spread was behind before. -/
theorem Spreads.isBehind (h : Spreads a w v) (hb : (!(v.value b.goal == a)) = true) :
    (!(w.value b.goal == a)) = true := by
  rw [Bool.not_eq_true'] at hb ⊢
  refine Bool.eq_false_iff.2 fun hw => ?_
  rw [h.value_beq hw] at hb
  cases hb

theorem Spreads.behind_le (h : Spreads a w v) (bs : List Binding) :
    v.behind bs a ≤ w.behind bs a := List.countP_mono_left fun _ _ hb => h.isBehind hb

/-- A goal that `a` has come to is not behind any more. -/
theorem Spreads.behind_lt (h : Spreads a w v) (hb : b ∈ bs) (hw : ¬ (w.value b.goal == a) = true)
    (hv : (v.value b.goal == a) = true) : v.behind bs a < w.behind bs a :=
  countP_lt_of_mem (fun _ hc => h.isBehind hc) hb (by simp [hv]) (by simp [hw])

end World

namespace Scene

variable {S : Scene} (host : Host) {write : Write} {n : Nat} {w v : World} {h : Held} {p : Place}
  {a c : Value} {bs : List Binding} {b : Binding}

/-- Whether a world of a scene is one in which exactly the bindings `bs` are installed. -/
structure Holds (S : Scene) (bs : List Binding) (w : World) : Prop where
  reached : World.Reaches S.may S.start w
  takesAny : ∀ p, S.places p → w.TakesAny p
  number : ∀ p, S.places p → (w.value p).isNumberOrOther = true
  subscribers : ∀ p, S.places p → (w.object p.object).subscribers =
    (bs.filter fun b => b.source = p.object).map fun b => (b.sourceKey, .binding b)

/-- Whether a binding copies from one place of a scene to another. -/
structure Copies (S : Scene) (b : Binding) : Prop where
  unmapped : b.mapping = none
  origin : S.places b.origin
  goal : S.places b.goal
  may : ∀ v, S.may v b.goal (v.value b.origin)

/-- Whether some bindings copy within a scene, no two of them to the same place. -/
structure Network (S : Scene) (bs : List Binding) : Prop where
  copies : ∀ b ∈ bs, S.Copies b
  nodup : (bs.map Binding.goal).Nodup

theorem Network.eq_of_goal (N : S.Network bs) {c : Binding} (hb : b ∈ bs) (hc : c ∈ bs)
    (h : b.goal = c.goal) : b = c := List.inj_on_of_nodup_map N.nodup hb hc h

/-! ## Worlds of a scene -/

namespace Holds

variable (hw : S.Holds bs w)

include hw

theorem alive (hp : S.places p) (hh : S.core.Within h) : w.isAlive h p.object = true :=
  World.isAlive_of_within hh (S.alive hw.reached hp)

theorem lt_size (hp : S.places p) : p.object.index < w.objects.size :=
  World.lt_size_of_isAlive (S.alive hw.reached hp)

theorem subscribersOf (hp : S.places p) : (w.object p.object).subscribersOf p.key =
    (bs.filter fun b => b.origin = p).map .binding := by
  unfold Object.subscribersOf
  rw [hw.subscribers p hp, List.filter_map, List.map_map, List.filter_filter]
  congr 1
  refine List.filter_congr fun b _ => ?_
  cases p
  simp [Binding.origin, Bool.and_comm, beq_eq_decide]

theorem holds_iff (hp : S.places p) :
    (w.object p.object).holds p.key a = (w.value p == a) := by
  unfold Object.holds
  rw [World.getProperty_of_takesAny (hw.takesAny p hp)]

theorem settled_iff (hb : S.Copies b) :
    b.Settled w ↔ (w.value b.goal == w.value b.origin) = true := by
  unfold Binding.Settled
  have source := World.getProperty_of_takesAny (hw.takesAny _ hb.origin)
  have target := hw.holds_iff (a := w.value b.origin) hb.goal
  constructor
  · rintro ⟨a, ha, ht⟩
    cases ha.symm.trans source
    rwa [← target]
  · exact fun ht => ⟨_, source, target.trans ht⟩

theorem emit (e : Event) : S.Holds bs (w.emit e) where
  reached := hw.reached.tail (.emit w e)
  takesAny := hw.takesAny
  number := hw.number
  subscribers := hw.subscribers

/-- One more binding is installed. -/
theorem subscribe (hb : S.Copies b) :
    S.Holds (bs ++ [b]) (w.subscribe b.source b.sourceKey (.binding b)) where
  reached := hw.reached.tail (.subscribe w _ _ _)
  takesAny p hp := (World.takesAny_subscribe (hw.lt_size hb.origin)).2 (hw.takesAny p hp)
  number p hp := by
    have ho : b.source.index < w.objects.size := hw.lt_size hb.origin
    rw [World.value_subscribe ho]
    exact hw.number p hp
  subscribers p hp := by
    have ho : b.source.index < w.objects.size := hw.lt_size hb.origin
    rw [World.subscribers_subscribe ho, hw.subscribers p hp, List.filter_append, List.map_append]
    congr 1
    by_cases h : b.source = p.object
    · rw [if_pos h.symm, List.filter_cons_of_pos (by simpa using h)]
      rfl
    · rw [if_neg fun k => h k.symm, List.filter_cons_of_neg (by simpa using h)]
      rfl

end Holds

/-! ## What a write leaves behind -/

/-- What becomes of a world in which `a` is passed on along the bindings `bs`. -/
structure Passed (S : Scene) (bs : List Binding) (w : World) (a : Value) (v : World) : Prop where
  holds : S.Holds bs v
  spreads : World.Spreads a w v

/-- What a write of `a` to the place `p` and all that follows from it do to a world. -/
structure Wrote (S : Scene) (bs : List Binding) (w : World) (p : Place) (a : Value) (v : World) :
    Prop extends S.Passed bs w a v where
  value_self : (v.value p == a) = true
  settled : ∀ b ∈ bs, b.goal ≠ p → b.Settled w → b.Settled v

/-- Whether writes keep what is installed, provided that at most `n` goals are left behind. -/
def Writes (S : Scene) (write : Write) (bs : List Binding) (n : Nat) : Prop :=
  ∀ {h w p a}, S.Holds bs w → S.core.Within h → S.places p → S.may w p a →
    a.isNumberOrOther = true →
    (∀ x, w.assign p.object p.key a = .ok x → x.world.behind bs a < n) →
    ∃ v, (write h p.object p.key a).runIn w = (.ok (), v) ∧ S.Wrote bs w p a v

theorem Passed.refl (hw : S.Holds bs w) : S.Passed bs w a w := ⟨hw, fun _ => .inl rfl⟩

theorem Passed.trans {u : World} (hu : S.Passed bs w a u) (hv : S.Passed bs u c v)
    (hc : (c == a) = true) : S.Passed bs w a v :=
  ⟨hv.holds, hu.spreads.trans hv.spreads hc⟩

/-- The binding along which a value was copied is settled. -/
theorem Wrote.settled_self (hv : S.Wrote bs w b.goal (w.value b.origin) v) (hb : S.Copies b) :
    b.Settled v := by
  rw [hv.holds.settled_iff hb]
  rcases hv.spreads b.origin with ho | ho
  · rw [ho]
    exact hv.value_self
  · exact Value.beq_trans hv.value_self (by rwa [Value.beq_comm])

theorem Holds.assigned {x : World.Written} (hw : S.Holds bs w) (hm : S.may w p a)
    (ha : a.isNumberOrOther = true) (hx : w.assign p.object p.key a = .ok x)
    (has : World.Assigned w p a x) : S.Holds bs x.world where
  reached := hw.reached.tail (.write hm hx)
  takesAny q hq := has.takesAny q (hw.takesAny q hq)
  number q hq := by
    by_cases h : q = p
    · rw [h, has.value_self]
      exact ha
    · rw [has.value_of_ne q h]
      exact hw.number q hq
  subscribers q hq := by
    rw [has.subscribers]
    exact hw.subscribers q hq

theorem spreads_of_assigned {x : World.Written} (ha : a.isNumberOrOther = true)
    (hx : World.Assigned w p a x) : World.Spreads a w x.world := by
  intro q
  by_cases h : q = p
  · right
    rw [h, hx.value_self]
    exact Value.beq_self ha
  · exact .inl (hx.value_of_ne q h)

/-! ## Copying along a binding -/

/-- A binding copies its value if it can be written. -/
theorem copyAlong_of_writes (hwrite : S.Writes write bs n) (hw : S.Holds bs w) (hb : S.Copies b)
    (hh : S.core.Within h)
    (hn : ¬ (w.value b.goal == w.value b.origin) = true →
      ∀ x, w.assign b.target b.targetKey (w.value b.origin) = .ok x →
        x.world.behind bs (w.value b.origin) < n) :
    ∃ v, (host.copyAlong write h b).runIn w = (.ok (), v) ∧
      S.Wrote bs w b.goal (w.value b.origin) v := by
  have alive : (w.isAlive h b.source && w.isAlive h b.target) = true := by
    rw [Bool.and_eq_true]
    exact ⟨hw.alive hb.origin hh, hw.alive hb.goal hh⟩
  have source : (w.object b.source).getProperty b.sourceKey = .ok (w.value b.origin) :=
    World.getProperty_of_takesAny (hw.takesAny _ hb.origin)
  have target : (w.object b.target).holds b.targetKey (w.value b.origin) =
      (w.value b.goal == w.value b.origin) := hw.holds_iff hb.goal
  rw [Host.copyAlong_runIn_of_unmapped host write hb.unmapped alive source, target]
  by_cases h : (w.value b.goal == w.value b.origin) = true
  · rw [if_pos h]
    exact ⟨w, rfl, .refl hw, h, fun _ _ _ => id⟩
  · rw [if_neg h]
    obtain ⟨v, hv, wrote⟩ := hwrite hw (hh.keep _) hb.goal (hb.may w) (hw.number _ hb.origin) (hn h)
    exact ⟨v, Op.mapError_runIn_eq_ok.2 hv, wrote⟩

/-! ## Telling subscribers -/

/-- A binding that is told of a change is settled then, and the others stay settled. -/
theorem tell_of_writes (hwrite : S.Writes write bs n) (N : S.Network bs) (hh : S.core.Within h)
    (hb : b ∈ bs) (hw : S.Holds bs w) (ha : (w.value b.origin == a) = true)
    (hn : w.behind bs a ≤ n) (name : String) (previous : Value) :
    ∃ v, (host.tell write h name previous (.binding b)).runIn w = (.ok (), v) ∧
      S.Passed bs w a v ∧ b.Settled v ∧ ∀ c ∈ bs, c.Settled w → c.Settled v := by
  have copies := N.copies b hb
  have number := hw.number _ copies.origin
  -- one goal less is left behind after the assignment
  have fewer : ¬ (w.value b.goal == w.value b.origin) = true →
      ∀ x, w.assign b.target b.targetKey (w.value b.origin) = .ok x →
        x.world.behind bs (w.value b.origin) < n := by
    intro behind x hx
    obtain ⟨x', hx', assigned⟩ := World.assign_of_takesAny (hw.lt_size copies.goal)
      (hw.takesAny _ copies.goal) (w.value b.origin)
    cases hx.symm.trans hx'
    have goal : (x.world.value b.goal == w.value b.origin) = true := by
      rw [assigned.value_self]
      exact Value.beq_self number
    calc x.world.behind bs (w.value b.origin)
        < w.behind bs (w.value b.origin) :=
          (spreads_of_assigned number assigned).behind_lt hb behind goal
      _ = w.behind bs a := World.behind_congr ha
      _ ≤ n := hn
  obtain ⟨v, hv, wrote⟩ := copyAlong_of_writes host hwrite hw copies hh fewer
  have settled := wrote.settled_self copies
  refine ⟨v, Host.tell_of_ok hv name previous, (Passed.refl hw).trans wrote.toPassed ha, settled, fun c hc hs => ?_⟩
  by_cases hg : c.goal = b.goal
  · rwa [N.eq_of_goal hc hb hg]
  · exact wrote.settled c hc hg hs

/-- The bindings of a place are told one after the other: all of them are settled then, and the
others stay settled. -/
theorem tell_all (hwrite : S.Writes write bs n) (N : S.Network bs) (hh : S.core.Within h)
    (name : String) (previous : Value) {told : List Binding}
    (ht : ∀ b ∈ told, b ∈ bs ∧ b.origin = p) (hw : S.Holds bs w) (ha : (w.value p == a) = true)
    (hn : w.behind bs a ≤ n) :
    ∃ v, ((told.map Subscriber.binding).forM (host.tell write h name previous)).runIn w =
        (.ok (), v) ∧
      S.Passed bs w a v ∧ (∀ b ∈ told, b.Settled v) ∧ ∀ b ∈ bs, b.Settled w → b.Settled v := by
  induction told generalizing w with
  | nil => exact ⟨w, rfl, .refl hw, List.forall_mem_nil _, fun _ _ => id⟩
  | cons b told ih =>
    obtain ⟨hb, origin⟩ := ht b List.mem_cons_self
    obtain ⟨u, hu, passed, settled, others⟩ :=
      tell_of_writes host hwrite N hh hb hw (by rwa [origin]) hn name previous
    have self := passed.spreads.value_beq ha
    obtain ⟨v, hv, passed', rest, others'⟩ :=
      ih (fun c hc => ht c (List.mem_cons_of_mem b hc)) passed.holds self
        (Nat.le_trans (passed.spreads.behind_le bs) hn)
    have run : (((b :: told).map Subscriber.binding).forM
        (host.tell write h name previous)).runIn w = (.ok (), v) := by
      rw [List.map_cons, Op.forM_cons_runIn_of_ok hu]
      exact hv
    have reflexive : (a == a) = true := Value.beq_trans (by rwa [Value.beq_comm]) ha
    refine ⟨v, run, passed.trans passed' reflexive, fun c hc => ?_, fun c hc hs => ?_⟩
    · rcases List.mem_cons.1 hc with rfl | hc
      · exact others' c hb settled
      · exact rest c hc
    · exact others' c hc (others c hc hs)

/-- What follows from the assignment of a value is passed on to those who subscribed. -/
theorem publish_of_writes (hwrite : S.Writes (host.write n) bs n) (N : S.Network bs)
    (hh : S.core.Within h) (hp : S.places p) (hw : S.Holds bs w) (ha : (w.value p == a) = true)
    (hn : w.behind bs a ≤ n) (previous : Value) :
    ∃ v, (host.publish (host.write n) h p.object p.key previous).runIn w = (.ok (), v) ∧
      S.Passed bs w a v ∧ (∀ b ∈ bs, b.origin = p → b.Settled v) ∧
        ∀ b ∈ bs, b.Settled w → b.Settled v := by
  have told : ∀ b ∈ bs.filter fun b => b.origin = p, b ∈ bs ∧ b.origin = p := by
    intro b hb
    rwa [List.mem_filter, decide_eq_true_eq] at hb
  obtain ⟨v, hv, passed, settled, others⟩ :=
    tell_all host hwrite N hh p.key previous told hw ha hn
  refine ⟨v, ?run, passed, fun b hb ho => settled b ?mem, others⟩
  case run =>
    unfold Host.publish
    rw [Op.bind_runIn, Op.read_runIn, hw.subscribersOf hp]
    exact hv
  case mem =>
    rw [List.mem_filter, decide_eq_true_eq]
    exact ⟨hb, ho⟩

/-! ## Writing -/

/-- If a change may be passed on once more than there are goals left behind, it comes to all of
them. -/
theorem writes_write (N : S.Network bs) (n : Nat) : S.Writes (host.write n) bs n := by
  induction n with
  | zero =>
    intro h w p a hw _ hp _ _ hn
    obtain ⟨x, hx, -⟩ := World.assign_of_takesAny (hw.lt_size hp) (hw.takesAny p hp) a
    exact absurd (hn x hx) (Nat.not_lt_zero _)
  | succ n ih =>
    intro h w p a hw hh hp hm ha hn
    obtain ⟨x, hx, assigned⟩ := World.assign_of_takesAny (hw.lt_size hp) (hw.takesAny p hp) a
    have holds := hw.assigned hm ha hx assigned
    have spreads := spreads_of_assigned ha assigned
    have self : (x.world.value p == a) = true := by
      rw [assigned.value_self]
      exact Value.beq_self ha
    -- only the bindings that start at the place are unsettled by the assignment
    have elsewhere : ∀ b ∈ bs, b.goal ≠ p → b.origin ≠ p → b.Settled w → b.Settled x.world := by
      intro b hb hg ho hs
      rw [hw.settled_iff (N.copies b hb)] at hs
      rw [holds.settled_iff (N.copies b hb), assigned.value_of_ne _ hg, assigned.value_of_ne _ ho]
      exact hs
    obtain ⟨world, _ | previous⟩ := x
    · have run : (host.write (n + 1) h p.object p.key a).runIn w = (.ok (), world) := by
        unfold Op.runIn Host.write Host.writeThen
        rw [hx]
      refine ⟨world, run, ⟨holds, spreads⟩, self, fun b hb hg hs => ?_⟩
      by_cases ho : b.origin = p
      · -- the value was there before, and so it is at the goal
        rw [hw.settled_iff (N.copies b hb), ho] at hs
        rw [holds.settled_iff (N.copies b hb), assigned.value_of_ne _ hg, ho, assigned.value_self]
        exact Value.beq_trans hs (assigned.told rfl)
      · exact elsewhere b hb hg ho hs
    · obtain ⟨v, hv, passed, settled, others⟩ :=
        publish_of_writes host ih N (hh.keep [.object p.object, a, previous]) hp holds self
          (Nat.le_of_lt_succ (hn _ hx)) previous
      have run : (host.write (n + 1) h p.object p.key a).runIn w = (.ok (), v) := by
        unfold Op.runIn Host.write Host.writeThen
        rw [hx]
        exact hv
      have passed' := Passed.trans ⟨holds, spreads⟩ passed (Value.beq_self ha)
      refine ⟨v, run, passed', passed.spreads.value_beq self, fun b hb hg hs => ?_⟩
      by_cases ho : b.origin = p
      · exact settled b hb ho
      · exact others b hb (elsewhere b hb hg ho hs)

/-- Whether all bindings that are installed are settled. -/
structure Rests (S : Scene) (bs : List Binding) (w : World) : Prop extends S.Holds bs w where
  settled : ∀ b ∈ bs, b.Settled w

/-- A write to a place to which no binding leads leaves the bindings settled. -/
theorem Rests.exists_write (hw : S.Rests bs w) (N : S.Network bs) (hn : bs.length < n)
    (hh : S.core.Within h) (hp : S.places p) (hm : S.may w p a) (ha : a.isNumberOrOther = true)
    (hg : ∀ b ∈ bs, b.goal ≠ p) :
    ∃ v, (host.write n h p.object p.key a).runIn w = (.ok (), v) ∧ S.Rests bs v := by
  obtain ⟨v, hv, wrote⟩ := writes_write host N n hw.toHolds hh hp hm ha
    fun x _ => Nat.lt_of_le_of_lt (x.world.behind_le_length bs a) hn
  exact ⟨v, hv, wrote.holds, fun b hb => wrote.settled b hb (hg b hb) (hw.settled b hb)⟩

/-- A value is copied along a binding that is not installed yet. -/
theorem Rests.exists_copyAlong (hw : S.Rests bs w) (N : S.Network bs) (hn : bs.length < n)
    (hb : S.Copies b) (hh : S.core.Within h) (hg : ∀ c ∈ bs, c.goal ≠ b.goal) :
    ∃ v, (host.copyAlong (host.write n) h b).runIn w = (.ok (), v) ∧ S.Rests bs v ∧
      b.Settled v := by
  obtain ⟨v, hv, wrote⟩ := copyAlong_of_writes host (writes_write host N n) hw.toHolds hb hh
    fun _ x _ => Nat.lt_of_le_of_lt (x.world.behind_le_length bs _) hn
  exact ⟨v, hv, ⟨wrote.holds, fun c hc => wrote.settled c hc (hg c hc) (hw.settled c hc)⟩,
    wrote.settled_self hb⟩

theorem Rests.emit (hw : S.Rests bs w) (e : Event) : S.Rests bs (w.emit e) :=
  ⟨hw.toHolds.emit e, hw.settled⟩

/-- A settled binding is installed. -/
theorem Rests.subscribe (hw : S.Rests bs w) (N : S.Network bs) (hb : S.Copies b)
    (hs : b.Settled w) :
    S.Rests (bs ++ [b]) (w.subscribe b.source b.sourceKey (.binding b)) := by
  have holds := hw.toHolds.subscribe hb
  have ho : b.source.index < w.objects.size := hw.lt_size hb.origin
  have keeps {c : Binding} (hc : S.Copies c) (hs : c.Settled w) :
      c.Settled (w.subscribe b.source b.sourceKey (.binding b)) := by
    rw [holds.settled_iff hc, World.value_subscribe ho, World.value_subscribe ho]
    exact (hw.settled_iff hc).1 hs
  refine ⟨holds, fun c hc => ?_⟩
  rcases List.mem_append.1 hc with hc | hc
  · exact keeps (N.copies c hc) (hw.settled c hc)
  · rw [List.mem_singleton] at hc
    rw [hc]
    exact keeps hb hs

end Scene

end Bxml
