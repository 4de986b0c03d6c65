import Bxml.Proofs.Settling.Becoming
import Bxml.Proofs.Settling.Wiring

/-!
# Values on their way along bindings

A flow is a world with the values that may come along its bindings: what is written from outside,
and what the slots on the way store for it.  Slots of most types are firm: they store equal values
for all of these, and change once at most.  So the flow ends if it does between two changes of firm
slots: every such change leaves fewer of them restless.

Some firm slots may turn the flow, as slots for floating point numbers do that round a number: what
comes of what they store may be other values, for which firm slots store other ones.  They too change
once at most, so that it suffices that all writes come to an end once one of them has changed.

* `Flow` extends a `Wiring` by the values before and after it turns, and `HasTurned` says that it
  has.
* `Settles N k` says that writes come to an end while fewer than `k` bindings lead to restless firm
  slots; it is what the induction in `Settling/Loose.lean` is on.
* `Inside` and `Later` are the worlds before and after such a change, and `lands_of_firm` is the
  write to a firm slot.
-/

namespace Bxml

/-- The values that come along bindings, with those that may come once a turning slot has changed. -/
structure Flow extends Wiring where
  /-- The values that come along before a turning slot changes. -/
  values : Value → Prop
  /-- All values. -/
  all : Value → Prop
  /-- Whether slots of the type turn the flow. -/
  turns : ValueType → Bool
  /-- What a firm slot of the type stores before the flow has turned. -/
  one : ValueType → Value
  /-- How many bindings lead to restless slots that turn the flow, at most, before it has turned. -/
  turning : Nat
  /-- How many writes are nested at most once it has turned. -/
  limit : Nat
  among {v : Value} : values v → all v
  stored {t : ValueType} {v c : Value} : types t → turns t = false → values v →
    t.stored? v = some c → values c
  stored_all {t : ValueType} {v c : Value} : types t → all v → t.stored? v = some c → all c
  equal {v : Value} : values v → (v == v) = true
  isFirm_of_turns {t : ValueType} : turns t = true → t.isFirm = true
  firm : toWiring.Fixes values ValueType.isFirm one
  fixed : toWiring.Fixes all turns one
  settled {w : World} {h : Held} {p : Place} {t : ValueType} {a : Value} :
    toWiring.Reaches w → toWiring.restless turns one w < turning → toWiring.IsGoal p t →
      all a → ¬ (w.value p == a) = true → Lands limit h p a w (toWiring.Leads all w)

namespace Flow

variable {F : Flow} {w u v : World} {p : Place} {a c : Value} {t : ValueType} {b : Binding}
  {h : Held} {k m : Nat}

/-- Whether a world becomes another by writes that do not turn the flow. -/
def Runs (F : Flow) (w u : World) : Prop := F.Leads F.values w u

/-- Whether a world becomes another by any writes. -/
def Moves (F : Flow) (w u : World) : Prop := F.Leads F.all w u

/-- Whether the flow has turned. -/
def HasTurned (F : Flow) (w : World) : Prop := F.restless F.turns F.one w < F.turning

/-- How many bindings lead to firm slots that do not hold yet what they will store. -/
def unsettled (F : Flow) (w : World) : Nat := F.restless ValueType.isFirm F.one w

theorem Runs.moves (h : F.Runs w u) : F.Moves w u := Wiring.Leads.mono h fun _ => F.among

theorem Runs.refl (w : World) : F.Runs w w := Wiring.Leads.refl w

theorem Runs.trans (h : F.Runs w u) (k : F.Runs u v) : F.Runs w v := Wiring.Leads.trans h k

theorem Moves.trans (h : F.Moves w u) (k : F.Moves u v) : F.Moves w v := Wiring.Leads.trans h k

theorem HasTurned.of_moves (turned : F.HasTurned w) (hw : F.Reaches w) (h : F.Moves w u) :
    F.HasTurned u :=
  Nat.lt_of_le_of_lt (Wiring.restless_le F.fixed hw h) turned

/-- Whether a flow that has not turned yet is in a world where at most `k` bindings lead to restless
firm slots. -/
structure Inside (F : Flow) (k : Nat) (w : World) : Prop where
  reaches : F.Reaches w
  turning : F.restless F.turns F.one w ≤ F.turning
  unsettled : F.unsettled w ≤ k

theorem Inside.of_runs (hw : F.Inside k w) (h : F.Runs w u) : F.Inside k u where
  reaches := hw.reaches.trans h
  turning := Nat.le_trans (Wiring.restless_le F.fixed hw.reaches h.moves) hw.turning
  unsettled := Nat.le_trans (Wiring.restless_le F.firm hw.reaches h) hw.unsettled

/-- What comes along stays in a slot that does not turn the flow. -/
theorem Runs.values (h : F.Runs w u) (ht : w.slotType? p = some t) (hn : F.turns t = false)
    (hp : F.values (w.value p)) : F.values (u.value p) :=
  Wiring.Leads.values h ht (fun _ _ types ha hc => F.stored types hn ha hc) hp

theorem Moves.all (h : F.Moves w u) (ht : w.slotType? p = some t) (hp : F.all (w.value p)) :
    F.all (u.value p) :=
  Wiring.Leads.values h ht (fun _ _ types ha hc => F.stored_all types ha hc) hp

/-! ## Between two changes of firm slots -/

/-- Whether a world becomes another in which the flow has turned, or in which fewer than `k` bindings
lead to restless firm slots. -/
structure Later (F : Flow) (k : Nat) (w u : World) : Prop where
  moves : F.Moves w u
  turned : F.HasTurned u ∨ F.Runs w u ∧ F.unsettled u < k

/-- Whether a value may come along in a world: any value once the flow has turned, and before that
one of the flow, where fewer than `k` bindings lead to restless firm slots. -/
def Admits (F : Flow) (k : Nat) (w : World) (a : Value) : Prop :=
  F.HasTurned w ∧ F.all a ∨
    F.restless F.turns F.one w ≤ F.turning ∧ F.unsettled w < k ∧ F.values a

/-- Whether writes of a flow come to an end as long as fewer than `k` bindings lead to restless firm
slots. -/
def Settles (F : Flow) (k m : Nat) : Prop :=
  ∀ {w h p t a}, F.Reaches w → F.Admits k w a → F.IsGoal p t → ¬ (w.value p == a) = true →
    Lands m h p a w (F.Later k w)

namespace Later

theorem emit (h : F.Later k w u) (e : Event) : F.Later k w (u.emit e) :=
  ⟨Wiring.Leads.emit h.moves e, h.turned.imp id fun ⟨runs, few⟩ => ⟨Wiring.Leads.emit runs e, few⟩⟩

theorem of_runs (h : F.Runs w v) (h' : F.Later k v u) : F.Later k w u :=
  ⟨h.moves.trans h'.moves, h'.turned.imp id fun ⟨runs, few⟩ => ⟨h.trans runs, few⟩⟩

theorem trans (hw : F.Reaches w) (h : F.Later k w v) (h' : F.Later k v u) :
    F.Later k w u := by
  rcases h.turned with turned | ⟨runs, -⟩
  · exact ⟨h.moves.trans h'.moves, .inl (turned.of_moves (hw.trans h.moves) h'.moves)⟩
  · exact .of_runs runs h'

theorem mono {k' : Nat} (h : F.Later k w u) (hk : k ≤ k') : F.Later k' w u :=
  ⟨h.moves, h.turned.imp id fun ⟨runs, few⟩ => ⟨runs, Nat.lt_of_lt_of_le few hk⟩⟩

/-- A slot that does not turn the flow goes on with what comes along. -/
theorem admits (h : F.Later k w v) (hw : F.Reaches w)
    (turning : F.restless F.turns F.one w ≤ F.turning) (ht : w.slotType? p = some t)
    (hn : F.turns t = false) (hp : F.values (w.value p)) : F.Admits k v (v.value p) := by
  rcases h.turned with turned | ⟨runs, few⟩
  · exact .inl ⟨turned, h.moves.all ht (F.among hp)⟩
  · exact .inr ⟨Nat.le_trans (Wiring.restless_le F.fixed hw h.moves) turning, few,
      runs.values ht hn hp⟩

/-- Once the flow has turned, all slots go on with what comes along. -/
theorem admits_of_turned (h : F.Later k w v) (hw : F.Reaches w) (turned : F.HasTurned w)
    (ht : w.slotType? p = some t) (hp : F.all (w.value p)) : F.Admits k v (v.value p) :=
  .inl ⟨turned.of_moves hw h.moves, h.moves.all ht hp⟩

/-- What is told to somebody comes to an end, where what the slot holds may come along. -/
theorem exists_tell {s : Subscriber} (settles : F.Settles k m) (hw : F.Reaches w)
    (hv : F.Later k w v) (hp : v.slotType? p = some t)
    (hs : s ∈ (F.start.object p.object).subscribersOf p.key) (previous : Value)
    (ha : F.Admits k v (v.value p)) :
    ∃ u, Ends m (fun host k => host.tell (host.write k) h p.key previous s) v (.ok (), u) ∧
      F.Later k w u := by
  refine Wiring.exists_tell (hw.trans hv.moves) hp hs previous (fun _ => hv)
    (fun _ e hu => hu.emit e) fun b _ hb hn => ?_
  obtain ⟨_, goal⟩ := Wiring.isGoal_of_mem hb
  exact (settles (hw.trans hv.moves) ha goal hn).weaken fun _ hu => hv.trans hw hu

end Later

/-- All who subscribed to a slot are told of its change, where what it holds may come along. -/
theorem exists_publish (settles : F.Settles k m) (hw : F.Reaches w)
    (hp : w.slotType? p = some t) (start : F.Later k w w)
    (admits : ∀ v, F.Later k w v → F.Admits k v (v.value p)) (previous : Value) :
    ∃ u, Ends m (fun host k => host.publish (host.write k) h p.object p.key previous) w
      (.ok (), u) ∧ F.Later k w u :=
  Wiring.exists_publish hw hp previous start (fun _ hu => hu.moves) (fun _ e hu => hu.emit e)
    fun u _ _ hu goal hn => (settles (hw.trans hu.moves) (admits u hu) goal hn).weaken
      fun _ hv => hu.trans hw hv

/-- A write to a firm slot turns the flow or leaves fewer slots restless, or the loose ones as they
were. -/
theorem lands_of_firm (settles : F.Settles k m) (hw : F.Inside k w) (hp : F.IsGoal p t)
    (hf : t.isFirm = true) (ha : F.values a) (hn : ¬ (w.value p == a) = true) :
    Lands (m + 1) h p a w fun u => F.Later k w u ∨ F.Runs w u ∧
      ∀ q t, F.start.slotType? q = some t → t.isFirm = false → u.value q = w.value q := by
  have ht := (hw.reaches.slotType p).trans hp.slotType
  cases hc : t.stored? a with
  | none =>
    obtain ⟨e, he⟩ := World.assign_of_refused ht hc
    exact lands_of_error he (.inr ⟨.refl w, fun _ _ _ _ => rfl⟩)
  | some c =>
    obtain ⟨x, hx, stored⟩ := World.assign_of_stored ht hc
    have one := F.firm hp.types hf ha hc
    have runs : F.Runs w x.world := .of_stored ht hp.types ha hc stored
    cases previous : x.previous with
    | none =>
      refine lands_of_quiet hx previous (.inr ⟨runs, fun q t' hq loose => stored.value_of_ne q ?_⟩)
      rintro rfl
      cases hq.symm.trans hp.slotType
      rw [hf] at loose
      cases loose
    | some v =>
      have other : ¬ (w.value p == F.one t) = true := fun ho =>
        stored.told v previous hn (Value.beq_trans ho (by rwa [Value.beq_comm]))
      have here : (x.world.value p == F.one t) = true := by rwa [stored.value_self]
      have reaches := hw.reaches.trans runs
      have slot := (stored.slotType p).trans ht
      -- the slot turns the flow, or there is one restless slot less
      have start : F.Later k x.world x.world ∧
          ∀ v, F.Later k x.world v → F.Admits k v (v.value p) := by
        cases turns : F.turns t with
        | true =>
          have turned : F.HasTurned x.world := Nat.lt_of_lt_of_le
            (Wiring.restless_lt F.fixed hw.reaches runs.moves hp turns other here) hw.turning
          have all : F.all (x.world.value p) := by
            rw [stored.value_self]
            exact F.stored_all hp.types (F.among ha) hc
          exact ⟨⟨Wiring.Leads.refl _, .inl turned⟩,
            fun v hv => hv.admits_of_turned reaches turned slot all⟩
        | false =>
          have fewer : F.unsettled x.world < k := Nat.lt_of_lt_of_le
            (Wiring.restless_lt F.firm hw.reaches runs hp hf other here) hw.unsettled
          have value : F.values (x.world.value p) := by
            rw [stored.value_self]
            exact F.stored hp.types turns ha hc
          exact ⟨⟨Wiring.Leads.refl _, .inr ⟨.refl _, fewer⟩⟩, fun v hv =>
            hv.admits reaches (hw.of_runs runs).turning slot turns value⟩
      obtain ⟨u, hu, later⟩ := exists_publish (h := h.keep [.object p.object, a, v]) settles reaches
        slot start.1 start.2 v
      exact lands_of_told hx previous hu (.inl (.of_runs runs later))

end Flow

end Bxml
