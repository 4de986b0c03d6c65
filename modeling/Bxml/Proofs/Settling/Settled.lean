import Bxml.Proofs.Settling.Loose

/-!
# Writes settle

Whatever the bindings are, in circles and between slots of different types too, a write comes to an
end if nothing that the written value becomes on its way is a NaN, and URLs are read from their texts:
`exists_settled`.  A floating point number and all that comes of it settle in any case, so that the
others settle too: it is left to count the slots for floating point numbers that still change.  A NaN,
which is not equal to itself, goes round between two slots that are bound to each other for as long as
it may.

`Wiring.rounded` and `Wiring.unrounded` are the two flows, after and before a slot for floating
point numbers has changed, and `lands_of_definite` is the count of these slots.  `IsWired` is the
condition on bindings.  `nan_goes_round` is the exception: two properties that feed each other
(`Feeds`) exhaust every host.
-/

namespace Bxml

namespace Wiring

variable {N : Wiring} {V : ValueType → Value → Prop} {w : World}
  {h : Held} {p : Place} {t : ValueType} {a c : Value} {x : Binary64} {n : Nat}

/-! ## Before and after rounding -/

/-- Slots of some types that store equal values each for all of some values store one value. -/
theorem exists_one (kinds : ValueType → Bool)
    (fixed : ∀ t, N.types t → kinds t = true → t.IsFixed (V t)) :
    ∃ one : ValueType → Value, ∀ t b c, N.types t → kinds t = true → V t b → t.stored? b = some c →
      (c == one t) = true := by
  have each : ∀ t, ∃ y, N.types t → kinds t = true → ∀ b c, V t b → t.stored? b = some c →
      (c == y) = true := by
    intro t
    by_cases known : N.types t ∧ kinds t = true
    · obtain ⟨y, hy⟩ := (fixed t known.1 known.2).exists_one
      exact ⟨y, fun _ _ => hy⟩
    · exact ⟨.null, fun types kind => absurd ⟨types, kind⟩ known⟩
  choose one hone using each
  exact ⟨one, fun t b c types kind => hone t types kind b c⟩

/-- Slots of all types but loose ones store one value for what a definite value becomes before it is
rounded, and those for floating point numbers for all that it becomes. -/
theorem exists_one_of_definite (ha : a.IsDefinite N.types) : ∃ one : ValueType → Value,
    N.Fixes (a.BecomesExactly N.types) ValueType.isFirm one ∧
      N.Fixes (a.Becomes N.types) (· == .float) one := by
  let V (t : ValueType) (b : Value) : Prop :=
    (t = .float ∧ a.Becomes N.types b) ∨ a.BecomesExactly N.types b
  obtain ⟨one, hone⟩ := exists_one (N := N) (V := V) ValueType.isFirm fun t ht hf => by
    by_cases float : t = .float
    · subst float
      exact (ha.isFixed ht rfl nofun).mono fun b hb => hb.elim And.right fun h => h.becomes
    · exact (ha.isFixed_exactly ht hf).mono fun b hb => hb.resolve_left fun h => float h.1
  refine ⟨one, fun t b c ht hf hb => hone t b c ht hf (.inr hb), fun t b c ht hf hb => ?_⟩
  obtain rfl : t = .float := eq_of_beq hf
  exact hone _ b c ht rfl (.inl ⟨rfl, hb⟩)

/-- What comes of a floating point number: it never turns. -/
def rounded (N : Wiring) (hx : (Value.float x).IsDefinite N.types) {one : ValueType → Value}
    (firm : N.Fixes ((Value.float x).Becomes N.types) ValueType.isFirm one) : Flow where
  toWiring := N
  values := (Value.float x).Becomes N.types
  all := (Value.float x).Becomes N.types
  turns _ := false
  one := one
  turning := 0
  limit := 0
  among := id
  stored ht _ hv hc := hv.stored ht hc
  stored_all ht hv hc := hv.stored ht hc
  equal hv := hx.equal hv
  isFirm_of_turns h := nomatch h
  firm := firm
  fixed _ _ _ _ h := nomatch h
  settled _ few := absurd few (Nat.not_lt_zero _)

/-- What comes of a value until a slot for floating point numbers changes. -/
def unrounded (N : Wiring) (ha : a.IsDefinite N.types) {one : ValueType → Value}
    (firm : N.Fixes (a.BecomesExactly N.types) ValueType.isFirm one)
    (fixed : N.Fixes (a.Becomes N.types) (· == .float) one) (turning limit : Nat)
    (settled : ∀ {w h p t c}, N.Reaches w → N.restless (· == .float) one w < turning →
      N.IsGoal p t → a.Becomes N.types c → ¬ (w.value p == c) = true →
      Lands limit h p c w (N.Leads (a.Becomes N.types) w)) : Flow where
  toWiring := N
  values := a.BecomesExactly N.types
  all := a.Becomes N.types
  turns t := t == .float
  one := one
  turning := turning
  limit := limit
  among hv := hv.becomes
  stored ht exactly hv hc := Value.Becomes.stored hv ⟨ht, by rintro rfl; cases exactly⟩ hc
  stored_all ht hv hc := hv.stored ht hc
  equal hv := ha.equal hv.becomes
  isFirm_of_turns h := by
    rw [eq_of_beq h]
    rfl
  firm := firm
  fixed := fixed
  settled := settled

/-- The number of nested writes between two changes of slots for floating point numbers, at most. -/
def rounds (N : Wiring) : Nat :=
  (N.start.bindings.length + 1) * (2 * N.start.bindings.length + 1)

/-- A write of what comes of a floating point number comes to an end. -/
theorem lands_of_rounded (hx : (Value.float x).IsDefinite N.types) (hw : N.Reaches w)
    (hp : N.IsGoal p t) (hc : (Value.float x).Becomes N.types c)
    (hn : ¬ (w.value p == c) = true) :
    Lands N.rounds h p c w (N.Leads ((Value.float x).Becomes N.types) w) := by
  obtain ⟨one, hone⟩ := exists_one (N := N) (V := fun _ => (Value.float x).Becomes N.types)
    ValueType.isFirm fun t ht hf => hx.isFixed_of_float ht hf
  let F := N.rounded hx fun t b c => hone t b c
  have none : F.restless F.turns F.one w = 0 := by
    refine List.countP_eq_zero.2 fun b _ => ?_
    unfold isRestless
    split <;> simp [F, rounded]
  have settles : F.Settles (N.start.bindings.length + 1) (0 + N.rounds) := F.settles _
  have few := Nat.lt_succ_of_le (N.restless_le_length ValueType.isFirm one w)
  exact ((settles hw (.inr ⟨none.le, few, hc⟩) hp hn).mono (Nat.zero_add _).le).weaken
    fun _ hu => hu.moves

/-- A write of what comes of a definite value comes to an end, within the number of nested writes
that is left for the slots for floating point numbers which still change. -/
theorem lands_of_definite (ha : a.IsDefinite N.types) {one : ValueType → Value}
    (firm : N.Fixes (a.BecomesExactly N.types) ValueType.isFirm one)
    (fixed : N.Fixes (a.Becomes N.types) (· == .float) one) (n : Nat) (hw : N.Reaches w)
    (few : N.restless (· == .float) one w < n) (hp : N.IsGoal p t) (hc : a.Becomes N.types c)
    (hn : ¬ (w.value p == c) = true) :
    Lands (n * N.rounds) h p c w (N.Leads (a.Becomes N.types) w) := by
  induction n generalizing w h p t c with
  | zero => exact absurd few (Nat.not_lt_zero _)
  | succ n ih =>
    rcases hc.exactly_or_rounded with exactly | ⟨x, hx, rounded⟩
    · let F := N.unrounded ha firm fixed n (n * N.rounds) ih
      have settles : F.Settles (N.start.bindings.length + 1) (n * N.rounds + N.rounds) := F.settles _
      have few' := Nat.lt_succ_of_le (N.restless_le_length ValueType.isFirm one w)
      exact ((settles hw (.inr ⟨Nat.le_of_lt_succ few, few', exactly⟩) hp hn).mono
        (Nat.succ_mul n N.rounds).ge).weaken fun _ hu => hu.moves
    · refine ((lands_of_rounded (ha.of_becomes hx) hw hp rounded hn).mono
        (Nat.le_mul_of_pos_left _ (Nat.succ_pos n))).weaken fun _ hu => ?_
      exact hu.mono fun _ => hx.trans

/-- The first write of a definite value, to whatever slot, comes to an end. -/
theorem lands_of_start (ha : a.IsDefinite N.types) (hp : N.start.slotType? p = some t)
    (types : N.types t) : Lands ((N.start.bindings.length + 1) * N.rounds + 1) h p a N.start
      (N.Leads (a.Becomes N.types) N.start) := by
  cases hc : t.stored? a with
  | none =>
    obtain ⟨e, he⟩ := World.assign_of_refused hp hc
    exact lands_of_error he (.refl _)
  | some c =>
    obtain ⟨x, hx, stored⟩ := World.assign_of_stored hp hc
    have leads : N.Leads (a.Becomes N.types) N.start x.world :=
      .of_stored hp types .refl hc stored
    cases previous : x.previous with
    | none => exact lands_of_quiet hx previous leads
    | some v =>
      obtain ⟨one, firm, fixed⟩ := exists_one_of_definite ha
      have reaches : N.Reaches x.world := leads.mono fun _ _ => trivial
      have slot := (stored.slotType p).trans hp
      have value : a.Becomes N.types (x.world.value p) := by
        rw [stored.value_self]
        exact Value.Becomes.refl.stored types hc
      obtain ⟨u, hu, after⟩ := exists_publish (h := h.keep [.object p.object, a, v]) reaches slot v
        (Leads.refl _) (fun _ hu => hu) (fun _ e hu => hu.emit e) fun u b t' hu goal hn =>
          have few := Nat.lt_succ_of_le (N.restless_le_length (· == .float) one u)
          have value' := hu.values slot (fun _ _ ht hb hc => hb.stored ht hc) value
          (lands_of_definite ha firm fixed _ (reaches.trans hu) few goal value' hn).weaken
            fun _ => hu.trans
      exact lands_of_told hx previous hu (leads.trans after)

end Wiring

namespace World

variable {w : World} {p q : Place} {a : Value} {t : ValueType} {h : Held}

/-- Whether the bindings that are installed have no mapping functions and lead to slots. -/
def IsWired (w : World) : Prop :=
  ∀ p b, .binding b ∈ (w.object p.object).subscribersOf p.key →
    b.origin = p ∧ b.mapping = none ∧ ∃ t, w.slotType? b.goal = some t

/-- The subscribers can be looked through object by object. -/
theorem isWired_of_objects (h : ∀ i : Fin w.objects.size, ∀ s ∈ w.objects[i].subscribers,
    ∀ b ∈ s.2.binding?, b.origin = ⟨⟨i⟩, s.1⟩ ∧ b.mapping = none ∧
      (w.slotType? b.goal).isSome = true) : w.IsWired := by
  intro p b hb
  unfold Object.subscribersOf at hb
  obtain ⟨s, hs, hsb⟩ := List.mem_map.1 hb
  obtain ⟨hs, key⟩ := List.mem_filter.1 hs
  unfold object at hs
  rw [Array.getD_eq_getD_getElem?] at hs
  by_cases ho : p.object.index < w.objects.size
  · rw [Array.getElem?_eq_getElem ho] at hs
    obtain ⟨origin, unmapped, slot⟩ := h ⟨p.object.index, ho⟩ s hs b (by rw [hsb]; rfl)
    rw [beq_iff_eq] at key
    exact ⟨origin.trans (by rw [key]), unmapped, Option.isSome_iff_exists.1 slot⟩
  · rw [Array.getElem?_eq_none (Nat.le_of_not_lt ho)] at hs
    cases hs

/-- The types of a slot and of those to which bindings lead. -/
def typesFrom (w : World) (p : Place) (t : ValueType) : Prop :=
  w.slotType? p = some t ∨ ∃ b ∈ w.bindings, w.slotType? b.goal = some t

/-- The bindings of a world, for a value that is written to a slot. -/
def wiring (hw : w.IsWired) (p : Place) : Wiring where
  start := w
  types := w.typesFrom p
  wired q b hb := by
    obtain ⟨origin, unmapped, t, ht⟩ := hw q b hb
    exact ⟨origin, unmapped, t, ht, .inr ⟨b, mem_bindings hb, ht⟩⟩

/-- The writing of a definite value to a slot comes to an end: it does the same in all hosts that
allow some number of nested writes, and none of these is given up. -/
theorem exists_settled (hw : w.IsWired) (hp : w.slotType? p = some t)
    (ha : a.IsDefinite (w.typesFrom p)) (h : Held) :
    ∃ r u, (∀ host : Host,
        (w.bindings.length + 1) ^ 2 * (2 * w.bindings.length + 1) < host.nesting →
        (host.setProperty h p.object p.key a).runIn w = (r, u)) ∧
      u.exhausted = w.exhausted := by
  obtain ⟨r, u, hu, leads⟩ := Wiring.lands_of_start (N := wiring hw p) (h := h) ha hp (.inl hp)
  refine ⟨r, u, fun host hn => hu host host.nesting ?_, leads.exhausted⟩
  rwa [sq, Nat.mul_assoc] at hn

/-- A key that is bound to properties for strings, whole and floating point numbers, in both
directions, and a whole number that is rounded on its way. -/
theorem exists_settled_number :
    let bind (source : Nat) (key : String) (target : Nat) (goal : String) : String × Subscriber :=
      (key, .binding ⟨⟨source⟩, key, ⟨target⟩, goal, none⟩)
    let w : World := {
      World.empty with
      objects := #[
        ⟨.dictionary ⟨"A", .empty, none⟩,
          [bind 0 "x" 1 "text", bind 0 "x" 1 "count", bind 0 "x" 1 "size"]⟩,
        ⟨.bean ⟨"Gauge", none, none, .ofList [("text", .writable .string .null),
            ("count", .writable .int .null), ("size", .writable .float .null)]⟩,
          [bind 1 "text" 0 "x", bind 1 "count" 0 "x", bind 1 "size" 0 "x"]⟩] }
    let held : Held := ⟨[.object ⟨0⟩, .object ⟨1⟩], []⟩
    let p : Place := ⟨⟨0⟩, "x"⟩
    let a : Value := .int 9007199254740993
    w.IsWired ∧ w.slotType? p = some .any ∧ a.IsDefinite (w.typesFrom p) ∧
      ValueType.float.stored? a = ValueType.float.stored? (.int 9007199254740992) ∧
      ∃ r u, (∀ host : Host,
          (w.bindings.length + 1) ^ 2 * (2 * w.bindings.length + 1) < host.nesting →
          (host.setProperty held p.object p.key a).runIn w = (r, u)) ∧
        u.exhausted = w.exhausted := by
  intro bind w held p a
  have hw : w.IsWired := isWired_of_objects (by decide +kernel)
  have hp : w.slotType? p = some .any := by decide +kernel
  have few : ∀ t, w.typesFrom p t → t ∈ [.any, .string, .int, .float] := by
    rintro t (ht | ⟨b, hb, ht⟩)
    · cases hp.symm.trans ht
      decide
    · have all : ∀ b ∈ w.bindings, ∀ t ∈ w.slotType? b.goal,
          t ∈ [.any, .string, .int, ValueType.float] := by decide +kernel
      exact all b hb t ht
  have ha : a.IsDefinite (w.typesFrom p) :=
    Value.isDefinite_of_readsBack rfl (fun _ _ hc => Option.some.inj hc ▸ by decide +kernel)
      fun _ hb => hb.readsBack (fun ht => nomatch few _ ht) trivial
  exact ⟨hw, hp, ha, by decide +kernel, exists_settled hw hp ha held⟩

/-! ## What never settles -/

/-- Whether a place tells of its changes by a single binding, to another place, and both of them are
slots that store `a` as it is. -/
structure Feeds (w : World) (a : Value) (p q : Place) : Prop where
  stores : ∃ t, w.slotType? p = some t ∧ t.stored? a = some a
  binding : ∃ b, (w.object p.object).subscribersOf p.key = [.binding b] ∧
    b.origin = p ∧ b.goal = q ∧ b.mapping = none

theorem Feeds.of_stored {x : Written} {b c : Value} {r s : Place} (hr : w.Feeds a r s)
    (hx : Stored w p b c x) : x.world.Feeds a r s where
  stores := by
    obtain ⟨t, ht, hs⟩ := hr.stores
    exact ⟨t, (hx.slotType r).trans ht, hs⟩
  binding := by
    unfold Object.subscribersOf
    rw [hx.subscribers]
    exact hr.binding

/-- What a target does not hold is written when it is copied there. -/
theorem exhausted_copyAlong (host : Host) (write : Write) {b : Binding} {c : Value}
    (alive : (w.isAlive h b.source && w.isAlive h b.target) = true)
    (source : (w.object b.source).getProperty b.sourceKey = .ok a)
    (mapped : (host.mapped (h.keep [.object b.source, .object b.target]) b.mapping a).runIn w =
      (.ok c, w))
    (other : ¬ (w.object b.target).holds b.targetKey c = true)
    (exhausted : ((write (h.keep [.object b.source, .object b.target]) b.target b.targetKey c).runIn
      w).2.exhausted = true) : ((host.copyAlong write h b).runIn w).2.exhausted = true := by
  rw [Host.copyAlong_runIn host write alive source]
  dsimp only
  rw [mapped]
  dsimp only
  rw [if_neg other, Op.mapError_runIn]
  rcases run : (write (h.keep [.object b.source, .object b.target]) b.target b.targetKey c).runIn w
    with ⟨_ | _, u⟩ <;> rw [run] at exhausted <;> exact exhausted

/-- A binding that is told alone and passes on what its target does not hold writes it. -/
theorem exhausted_publish (host : Host) (write : Write) {b : Binding} {c : Value} {s : ValueType}
    (subscribers : (w.object b.source).subscribersOf b.sourceKey = [.binding b])
    (hs : w.slotType? b.origin = some s) (ht : w.slotType? b.goal = some t)
    (hhs : .object b.source ∈ h.values) (hht : .object b.target ∈ h.values)
    (mapped : (host.mapped (h.keep [.object b.source, .object b.target]) b.mapping
      (w.value b.origin)).runIn w = (.ok c, w))
    (other : ¬ (w.value b.goal == c) = true)
    (exhausted : ((write (h.keep [.object b.source, .object b.target]) b.target b.targetKey c).runIn
      w).2.exhausted = true) (previous : Value) :
    ((host.publish write h b.source b.sourceKey previous).runIn w).2.exhausted = true := by
  have target : ¬ (w.object b.target).holds b.targetKey c = true := by
    unfold Object.holds
    rwa [show (w.object b.target).getProperty b.targetKey = _ from getProperty_of_slotType? ht]
  have alive : (w.isAlive h b.source && w.isAlive h b.target) = true := by
    rw [Bool.and_eq_true]
    exact ⟨isAlive_of_held hhs (lt_size_of_slotType? hs),
      isAlive_of_held hht (lt_size_of_slotType? ht)⟩
  have copy : ((host.copyAlong write h b).runIn w).2.exhausted = true :=
    exhausted_copyAlong host write alive (getProperty_of_slotType? hs) mapped target exhausted
  unfold Host.publish
  rw [Op.bind_runIn, Op.read_runIn]
  simp only [subscribers]
  change ((host.tell write h b.sourceKey previous (.binding b) >>= fun _ => pure ()).runIn
    w).2.exhausted = true
  unfold Host.tell
  rw [Op.bind_runIn, Op.bind_runIn, Op.attempt_runIn]
  rcases run : (host.copyAlong write h b).runIn w with ⟨_ | _, u⟩ <;> rw [run] at copy <;>
    simpa [World.log, World.emit] using copy

/-- A place that has come to hold what it feeds to another tells of it by a write. -/
theorem Feeds.publish (host : Host) (write : Write) (hp : w.Feeds a p q) (hq : w.Feeds a q p)
    (value : w.value p = a) (other : ¬ (w.value q == a) = true)
    (hhp : .object p.object ∈ h.values) (hhq : .object q.object ∈ h.values) (previous : Value)
    (hwrite : ∀ h' : Held, .object p.object ∈ h'.values → .object q.object ∈ h'.values →
      ((write h' q.object q.key a).runIn w).2.exhausted = true) :
    ((host.publish write h p.object p.key previous).runIn w).2.exhausted = true := by
  obtain ⟨t, ht, -⟩ := hp.stores
  obtain ⟨t', ht', -⟩ := hq.stores
  obtain ⟨b, subscribers, rfl, rfl, unmapped⟩ := hp.binding
  refine exhausted_publish host write subscribers ht ht' hhp hhq ?_ other ?_ previous
  · rw [unmapped, value]
    rfl
  · exact hwrite _ List.mem_cons_self (List.mem_cons_of_mem _ List.mem_cons_self)

/-- Between two places that feed each other what does not equal itself, it goes round for as long as
it may. -/
theorem exhausted_of_feeds (host : Host) (odd : ¬ (a == a) = true) (n : Nat)
    (hp : w.Feeds a p q) (hq : w.Feeds a q p) (hhp : .object p.object ∈ h.values)
    (hhq : .object q.object ∈ h.values) :
    ((host.write n h p.object p.key a).runIn w).2.exhausted = true := by
  have other (v : Value) : ¬ (v == a) = true := fun hv =>
    odd (Value.beq_trans (by rwa [Value.beq_comm]) hv)
  have told {w : World} {p q : Place} (hp : w.Feeds a p q) : ∃ x v,
      w.assign p.object p.key a = .ok x ∧ x.previous = some v ∧ Stored w p a a x := by
    obtain ⟨t, ht, hs⟩ := hp.stores
    obtain ⟨x, hx, stored⟩ := assign_of_stored ht hs
    cases previous : x.previous with
    | none => exact absurd (stored.quiet previous) (other _)
    | some v => exact ⟨x, v, hx, previous, stored⟩
  induction n generalizing w p q h with
  | zero =>
    obtain ⟨x, v, hx, previous, stored⟩ := told hp
    obtain ⟨b, subscribers, -⟩ := (hp.of_stored stored).binding
    rw [show host.write 0 = Host.writeThen Host.giveUp from rfl, writeThen_of_told hx previous]
    unfold Host.giveUp
    rw [Op.change_runIn, subscribers]
    rfl
  | succ n ih =>
    obtain ⟨x, v, hx, previous, stored⟩ := told hp
    rw [show host.write (n + 1) = Host.writeThen (host.publish (host.write n)) from rfl,
      writeThen_of_told hx previous]
    exact (hp.of_stored stored).publish host _ (hq.of_stored stored) stored.value_self (other _)
      List.mem_cons_self (List.mem_append_right _ hhq) v
      fun h' hp' hq' => ih (hq.of_stored stored) (hp.of_stored stored) hq' hp'

/-- Two properties for floating point numbers that are bound to each other, and a NaN. -/
theorem nan_goes_round :
    let meter (self other : Nat) : Object :=
      ⟨.bean ⟨"Meter", none, none, .ofList [("value", .writable .float .null)]⟩,
        [("value", .binding ⟨⟨self⟩, "value", ⟨other⟩, "value", none⟩)]⟩
    let w : World := { World.empty with objects := #[meter 0 1, meter 1 0] }
    let held : Held := ⟨[.object ⟨0⟩, .object ⟨1⟩], []⟩
    let p : Place := ⟨⟨0⟩, "value"⟩
    let nan : Value := .float .nan
    w.IsWired ∧ w.slotType? p = some .float ∧ ValueType.float.stored? nan = some nan ∧
      w.exhausted = false ∧
      ∀ host : Host, ((host.setProperty held p.object p.key nan).runIn w).2.exhausted = true := by
  intro meter w held p nan
  let q : Place := ⟨⟨1⟩, "value"⟩
  have hp : w.Feeds nan p q :=
    ⟨⟨.float, by decide +kernel, rfl⟩, ⟨_, rfl, rfl, rfl, rfl⟩⟩
  have hq : w.Feeds nan q p :=
    ⟨⟨.float, by decide +kernel, rfl⟩, ⟨_, rfl, rfl, rfl, rfl⟩⟩
  refine ⟨isWired_of_objects (by decide +kernel), by decide +kernel, rfl, rfl, fun host => ?_⟩
  exact exhausted_of_feeds host (by decide +kernel) host.nesting hp hq (by simp [held, p])
    (by simp [held, q])

end World

end Bxml
