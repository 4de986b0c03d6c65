import Bxml.Proofs.Observing.History
import Bxml.Proofs.Watching
import Bxml.Proofs.World.Altering

/-!
# What goes on while changes are told of

A write that alters a property calls those who subscribed to it one after the other, and each of
them may write, subscribe and do other things as long as it likes before the next one is called.
`Activity.Leads` says which histories come of it.  Whatever is done, a history stays in order
(`Leads.orderly`) and keeps track of what happens in the world (`Leads.tracks`).

* `Activity` are the things that may go on: a write, a call, the calls left of a change, and
  anything that consists of them.  `Leads` nests them, with a constructor for each step.
* `World.Tracks` is the invariant that ties a history to the world, and has a lemma for each
  occurrence; `Activity.KeepsOrder` is the one on the history itself, by the lemmas of
  `Observing/History.lean`.

The relation allows more than a host does: a binding that is told may do anything.  So it is used
for what follows from order alone; which history a run has is the matter of
`Observing/Recording.lean`.
-/

namespace Bxml

/-- Whether two values are the same or equal; a NaN equals nothing. -/
def Value.Matches (a b : Value) : Prop := a = b ∨ (a == b) = true

theorem Value.Matches.refl (a : Value) : a.Matches a := .inl rfl

theorem Value.Matches.trans {a b c : Value} (h : a.Matches b) (k : b.Matches c) : a.Matches c := by
  obtain rfl | h := h
  · exact k
  · obtain rfl | k := k
    · exact .inr h
    · exact .inr (Value.beq_trans h k)

/-- Whether some changes make one value another: each replaces what the one before it stored. In
between, and in the end, a value may give way to an equal one. -/
def Value.TurnsInto : Value → List (Value × Value) → Value → Prop
  | a, [], b => a.Matches b
  | a, (old, new) :: r, b => a.Matches old ∧ new.TurnsInto r b

theorem Value.TurnsInto.of_matches {a b c : Value} (h : a.Matches b) {l : List (Value × Value)}
    (hl : b.TurnsInto l c) : a.TurnsInto l c := by
  cases l with
  | nil => exact h.trans hl
  | cons _ _ => exact ⟨h.trans hl.1, hl.2⟩

theorem Value.TurnsInto.append {a b c : Value} {l l' : List (Value × Value)} (h : a.TurnsInto l b)
    (h' : b.TurnsInto l' c) : a.TurnsInto (l ++ l') c := by
  induction l generalizing a with
  | nil => exact .of_matches h h'
  | cons _ _ ih => exact ⟨h.1, ih h.2⟩

namespace World

/-- The changes that were reported to watchers. -/
def reported (w : World) : List Event := w.trace.toList.filter Event.isChange

/-- Those who subscribed to a place. -/
def audience (w : World) (p : Place) : List Subscriber := (w.object p.object).subscribersOf p.key

/-- Whether a world became another while nobody wrote a property or subscribed to one: new objects
may exist, and things may have been recorded. -/
structure Rests (w v : World) : Prop where
  size : w.objects.size ≤ v.objects.size
  publishes : ∀ o : ObjectId, o.index < w.objects.size → (w.object o).publishes = true →
    (v.object o).publishes = true
  read : ∀ p : Place, p.object.index < w.objects.size → (w.object p.object).publishes = true →
    v.read p = w.read p
  audience : v.audience = w.audience
  reported : v.reported = w.reported

variable {w v : World} {p q : Place} {a : Value} {s : Subscriber} {x : Written}

theorem reported_emit (w : World) (e : Event) :
    (w.emit e).reported = w.reported ++ if e.isChange = true then [e] else [] := by
  unfold reported emit
  rw [Array.toList_push, List.filter_append, List.filter_singleton]
  cases e.isChange <;> rfl

theorem Rests.refl (w : World) : w.Rests w := ⟨le_rfl, fun _ _ => id, fun _ _ _ => rfl, rfl, rfl⟩

theorem Rests.log (w : World) (level : Level) (text : String) : w.Rests (w.log level text) where
  size := le_rfl
  publishes _ _ := id
  read _ _ _ := rfl
  audience := rfl
  reported := by
    unfold World.log
    rw [reported_emit]
    exact List.append_nil _

theorem audience_assign (hx : w.assign p.object p.key a = .ok x) : x.world.audience = w.audience := by
  funext q
  unfold audience Object.subscribersOf
  rw [subscribers_of_assign hx]

theorem reported_assign (hx : w.assign p.object p.key a = .ok x) : x.world.reported = w.reported := by
  unfold reported
  rw [trace_of_assign hx]

theorem size_assign (hx : w.assign p.object p.key a = .ok x) :
    x.world.objects.size = w.objects.size := by
  obtain ⟨f, hf⟩ := exists_modify_of_assign hx
  rw [hf]
  exact Array.size_modify

theorem audience_subscribe (ho : p.object.index < w.objects.size) (s : Subscriber) (q : Place) :
    (w.subscribe p.object p.key s).audience q = w.audience q ++ if p = q then [s] else [] := by
  unfold audience Object.subscribersOf
  rw [subscribers_subscribe ho, List.filter_append, List.map_append]
  obtain ⟨o, k⟩ := p
  obtain ⟨o', k'⟩ := q
  congr 1
  by_cases h : o' = o
  · subst h
    by_cases hk : k = k' <;> simp [hk]
  · have other : (⟨o, k⟩ : Place) ≠ ⟨o', k'⟩ := fun he => h (congrArg Place.object he).symm
    rw [if_neg h, if_neg other]
    rfl

theorem value_of_assign_of_ne (hx : w.assign p.object p.key a = .ok x)
    (hq : (w.object q.object).publishes = true) (hne : q ≠ p) : x.world.value q = w.value q :=
  congrArg (·.toOption.getD .null) (read_of_assign_of_ne hx hq hne)

/-! ## What a history keeps track of -/

/-- Whether a history keeps track of what has happened since a world was as it was at the start. -/
structure Tracks (start w : World) (H : History) : Prop where
  size : start.objects.size ≤ w.objects.size
  publishes : ∀ o : ObjectId, o.index < start.objects.size → (start.object o).publishes = true →
    (w.object o).publishes = true
  reported : w.reported = start.reported ++ H.filterMap Occurrence.report?
  audience : ∀ p, w.audience p = start.audience p ++ H.joined p
  /-- A change is told to those who had subscribed when it was made. -/
  heard : ∀ (k : Nat) (p : Place) (old new : Value) (l : List Subscriber),
    H[k]? = some (.changed p old new l) → l = start.audience p ++ History.joined (H.take k) p
  /-- The changes of a property make what it held at the start what it holds now. -/
  values : ∀ p : Place, p.object.index < start.objects.size →
    (start.object p.object).publishes = true → (start.value p).TurnsInto (H.changes p) (w.value p)

namespace Tracks

variable {start : World} {H : History} {y : Occurrence}

theorem refl (w : World) : w.Tracks w [] where
  size := le_rfl
  publishes _ _ := id
  reported := (List.append_nil _).symm
  audience _ := (List.append_nil _).symm
  heard _ _ _ _ _ h := by cases h
  values _ _ _ := .refl _

/-- A history that keeps track so far, and one occurrence more. -/
theorem concat (h : start.Tracks w H) (size : w.objects.size ≤ v.objects.size)
    (publishes : ∀ o, o.index < start.objects.size → (w.object o).publishes = true →
      (v.object o).publishes = true)
    (reported : v.reported = w.reported ++ y.report?.toList)
    (audience : ∀ p, v.audience p = w.audience p ++ (y.subscriber? p).toList)
    (heard : ∀ p old new l, y = .changed p old new l → l = w.audience p)
    (values : ∀ p : Place, p.object.index < start.objects.size →
      (w.object p.object).publishes = true →
        (w.value p).TurnsInto (y.change? p).toList (v.value p)) :
    start.Tracks v (H ++ [y]) where
  size := h.size.trans size
  publishes o ho hp := publishes o ho (h.publishes o ho hp)
  reported := by
    rw [reported, h.reported, List.filterMap_append, List.append_assoc]
    cases hy : y.report? <;> simp [hy]
  audience p := by
    unfold History.joined
    rw [audience, h.audience, List.filterMap_append, List.append_assoc]
    cases hy : y.subscriber? p <;> simp [hy, History.joined]
  heard k p old new l hk := by
    obtain hk | ⟨rfl, hy⟩ := History.getElem?_concat_eq_some.1 hk
    · rw [List.take_append_of_le_length (History.lt_length hk).le]
      exact h.heard k p old new l hk
    · rw [List.take_left, ← h.audience]
      exact heard p old new l hy
  values p ho hp := by
    have changes : History.changes (H ++ [y]) p = H.changes p ++ (y.change? p).toList := by
      unfold History.changes
      rw [List.filterMap_append]
      cases hy : y.change? p <;> simp [hy]
    rw [changes]
    exact (h.values p ho hp).append (values p ho (h.publishes _ ho hp))

/-- What happens while nobody writes or subscribes needs no record. -/
theorem rests (h : start.Tracks w H) (hr : w.Rests v) : start.Tracks v H where
  size := h.size.trans hr.size
  publishes o ho hp := hr.publishes o (ho.trans_le h.size) (h.publishes o ho hp)
  reported := hr.reported.trans h.reported
  audience p := (congrFun hr.audience p).trans (h.audience p)
  heard := h.heard
  values p ho hp := by
    have same : v.value p = w.value p :=
      congrArg (·.toOption.getD .null) (hr.read p (ho.trans_le h.size) (h.publishes _ ho hp))
    rw [same]
    exact h.values p ho hp

/-- A write that alters nothing needs no record. -/
theorem kept (h : start.Tracks w H) (hx : w.assign p.object p.key a = .ok x)
    (hn : ¬ w.Alters p x.world) : start.Tracks x.world H where
  size := h.size.trans_eq (size_assign hx).symm
  publishes o ho hp := (publishes_of_assign hx o).trans (h.publishes o ho hp)
  reported := (reported_assign hx).trans h.reported
  audience q := (congrFun (audience_assign hx) q).trans (h.audience q)
  heard := h.heard
  values q ho hp := by
    have publishes := h.publishes _ ho hp
    have same : (w.value q).Matches (x.world.value q) := by
      by_cases he : q = p
      · subst he
        refine .inr (Decidable.byContradiction fun differs => hn ⟨publishes, fun _ => differs⟩)
      · exact .inl (value_of_assign_of_ne hx publishes he).symm
    rw [← List.append_nil (H.changes q)]
    exact (h.values q ho hp).append same

/-- A change is recorded with those who are to be told of it. -/
theorem altered (h : start.Tracks w H) (hx : w.assign p.object p.key a = .ok x) :
    start.Tracks x.world
      (H ++ [.changed p (w.value p) (x.world.value p) (x.world.audience p)]) := by
  refine h.concat (size_assign hx).ge (fun o _ hp => (publishes_of_assign hx o).trans hp)
    ((reported_assign hx).trans (List.append_nil _).symm)
    (fun q => (congrFun (audience_assign hx) q).trans (List.append_nil _).symm) ?_ ?_
  · rintro q old new l ⟨⟩
    exact congrFun (audience_assign hx) p
  · intro q _ hp
    unfold Occurrence.change?
    dsimp only
    by_cases he : p = q
    · subst he
      rw [if_pos rfl]
      exact ⟨.refl _, .refl _⟩
    · rw [if_neg he]
      exact .inl (value_of_assign_of_ne hx hp (Ne.symm he)).symm

/-- A watcher reports what it is told. -/
theorem reports (h : start.Tracks w H) (k i : Nat) (label name : String) (previous : Value) :
    start.Tracks (w.emit (.changed label name previous))
      (H ++ [.told k i (.watcher label) name previous]) :=
  h.concat le_rfl (fun _ _ => id) (reported_emit _ _) (fun _ => (List.append_nil _).symm) nofun
    fun _ _ _ => .refl _

/-- A binding reports nothing. -/
theorem told (h : start.Tracks w H) (k i : Nat) (b : Binding) (name : String) (previous : Value) :
    start.Tracks w (H ++ [.told k i (.binding b) name previous]) :=
  h.concat le_rfl (fun _ _ => id) (List.append_nil _).symm (fun _ => (List.append_nil _).symm) nofun
    fun _ _ _ => .refl _

theorem subscribed (h : start.Tracks w H) (ho : p.object.index < w.objects.size) (s : Subscriber) :
    start.Tracks (w.subscribe p.object p.key s) (H ++ [.subscribed p s]) := by
  have content (o : ObjectId) :
      ((w.subscribe p.object p.key s).object o).content = (w.object o).content :=
    content_subscribe ho
  refine h.concat Array.size_modify.ge (fun o _ hp => ?_) (List.append_nil _).symm (fun q => ?_) nofun
    fun q _ _ => .inl (value_subscribe ho).symm
  · unfold Object.publishes
    rw [content]
    exact hp
  · rw [audience_subscribe ho]
    unfold Occurrence.subscriber?
    by_cases hq : p = q <;> simp [hq]

end Tracks

end World

/-! ## Activities -/

/-- Something that goes on. -/
inductive Activity
  /-- A value is written, and those who are to know of it are told. -/
  | write (p : Place) (a : Value)
  /-- Those left of the audience of the `k`-th occurrence are told, from the `i`-th on. -/
  | tell (k i : Nat) (left : List Subscriber) (name : String) (previous : Value)
  /-- One of them is called. -/
  | call (k i : Nat) (s : Subscriber) (name : String) (previous : Value)
  /-- Anything else: properties are written, and somebody may subscribe. -/
  | act

namespace Activity

/-- Whether an activity may lead from one world to another, and a history so far to a longer one. -/
inductive Leads : Activity → World → History → World → History → Prop
  | refused {p : Place} {a : Value} {w : World} {e : PropertyError} (H : History) :
    w.assign p.object p.key a = .error e → Leads (write p a) w H w H
  | kept {p : Place} {a : Value} {w : World} {x : World.Written} (H : History) :
    w.assign p.object p.key a = .ok x → ¬ w.Alters p x.world → Leads (write p a) w H x.world H
  | altered {p : Place} {a : Value} {w u : World} {x : World.Written} {H H' : History} :
    w.assign p.object p.key a = .ok x → w.Alters p x.world →
      Leads (tell H.length 0 (x.world.audience p) p.key (w.value p)) x.world
        (H ++ [.changed p (w.value p) (x.world.value p) (x.world.audience p)]) u H' →
      Leads (write p a) w H u H'
  | nobody (k i : Nat) (name : String) (previous : Value) (w : World) (H : History) :
    Leads (tell k i [] name previous) w H w H
  | next {k i : Nat} {s : Subscriber} {l : List Subscriber} {name : String} {previous : Value}
      {w u v : World} {H H' H'' : History} :
    Leads (call k i s name previous) w H u H' → Leads (tell k (i + 1) l name previous) u H' v H'' →
      Leads (tell k i (s :: l) name previous) w H v H''
  | watcher (k i : Nat) (label name : String) (previous : Value) (w : World) (H : History) :
    Leads (call k i (.watcher label) name previous) w H (w.emit (.changed label name previous))
      (H ++ [.told k i (.watcher label) name previous])
  | binding {k i : Nat} {b : Binding} {name : String} {previous : Value} {w u : World}
      {H H' : History} :
    Leads act w (H ++ [.told k i (.binding b) name previous]) u H' →
      Leads (call k i (.binding b) name previous) w H u H'
  | done (w : World) (H : History) : Leads act w H w H
  | rested {w u v : World} {H H' : History} :
    w.Rests u → Leads act u H v H' → Leads act w H v H'
  | subscribed {p : Place} {w v : World} {H H' : History} (s : Subscriber) :
    p.object.index < w.objects.size →
      Leads act (w.subscribe p.object p.key s) (H ++ [.subscribed p s]) v H' → Leads act w H v H'
  | wrote {p : Place} {a : Value} {w u v : World} {H H' H'' : History} :
    Leads (write p a) w H u H' → Leads act u H' v H'' → Leads act w H v H''

namespace Leads

variable {a : Activity} {start w u v : World} {H H' H'' : History}

/-- What has happened stays as it is. -/
theorem isPrefix (h : a.Leads w H v H') : H <+: H' := by
  induction h with
  | refused | kept | nobody | done => exact List.prefix_rfl
  | watcher => exact List.prefix_append _ _
  | altered _ _ _ ih | binding _ ih | subscribed _ _ _ ih => exact (List.prefix_append _ _).trans ih
  | rested _ _ ih => exact ih
  | next _ _ ih ih' | wrote _ _ ih ih' => exact ih.trans ih'

/-- A history keeps track of what happens. -/
theorem tracks (h : a.Leads w H v H') (hw : start.Tracks w H) : start.Tracks v H' := by
  induction h with
  | refused | nobody | done => exact hw
  | kept _ hx hn => exact hw.kept hx hn
  | altered hx _ _ ih => exact ih (hw.altered hx)
  | watcher k i label name previous => exact hw.reports k i label name previous
  | @binding k i b name previous _ _ _ _ _ ih => exact ih (hw.told k i b name previous)
  | rested hr _ ih => exact ih (hw.rests hr)
  | subscribed s ho _ ih => exact ih (hw.subscribed ho s)
  | next _ _ ih ih' | wrote _ _ ih ih' => exact ih' (ih hw)

end Leads

/-- What an activity makes of a history in order. -/
def KeepsOrder (H H' : History) : Activity → Prop
  | tell k i left name previous => ∀ (p : Place) (new : Value) (audience : List Subscriber) (pending),
    p.key = name → H[k]? = some (.changed p previous new audience) → audience.drop i = left →
      i ≤ audience.length → H.Orderly ((k, i) :: pending) →
        H'.Orderly ((k, audience.length) :: pending)
  | call k i s name previous => ∀ (p : Place) (new : Value) (audience : List Subscriber) (pending),
    p.key = name → H[k]? = some (.changed p previous new audience) → audience[i]? = some s →
      H.Orderly ((k, i) :: pending) → H'.Orderly ((k, i + 1) :: pending)
  | _ => ∀ pending, H.Orderly pending → H'.Orderly pending

namespace Leads

variable {a : Activity} {start w u v : World} {H H' H'' : History}

theorem keepsOrder (h : a.Leads w H v H') : a.KeepsOrder H H' := by
  induction h with
  | refused | kept | done => exact fun _ => id
  | rested _ _ ih => exact ih
  | wrote _ _ ih ih' => exact fun pending h => ih' pending (ih pending h)
  | @subscribed p _ _ _ _ s _ _ ih => exact fun pending h => ih pending (h.subscribed p s)
  | @altered p _ w _ x H _ _ _ hl ih =>
    intro pending h
    have made : (H ++ [.changed p (w.value p) (x.world.value p) (x.world.audience p)])[H.length]? =
        some (.changed p (w.value p) (x.world.value p) (x.world.audience p)) := by simp
    exact (ih p _ _ pending rfl made rfl (Nat.zero_le _) (h.changed p _ _ _)).finished
      (History.getElem?_of_isPrefix hl.isPrefix made)
  | nobody k i name previous w H =>
    intro p new audience pending _ _ hl hi h
    rwa [Nat.le_antisymm (List.drop_eq_nil_iff.1 hl) hi]
  | @next k i s l name previous _ _ _ _ _ _ hc _ ih ih' =>
    intro p new audience pending hp hk hl _ h
    have first : audience[i]? = some s := by
      rw [← List.head?_drop, hl]
      rfl
    have rest : audience.drop (i + 1) = l := by
      rw [← List.tail_drop, hl]
      rfl
    exact ih' p new audience pending hp (History.getElem?_of_isPrefix hc.isPrefix hk) rest
      (List.getElem?_eq_some_iff.1 first).1 (ih p new audience pending hp hk first h)
  | watcher k i label name previous w H =>
    rintro p new audience pending rfl hk hs h
    exact h.told hk hs
  | binding _ ih =>
    rintro p new audience pending rfl hk hs h
    exact ih _ (h.told hk hs)

/-- Whatever is done, a history stays in order. -/
theorem orderly (h : act.Leads w H v H') (hH : H.Orderly []) : H'.Orderly [] := h.keepsOrder [] hH

/-- What is done may go on. -/
theorem append (h : act.Leads w H u H') (k : act.Leads u H' v H'') : act.Leads w H v H'' := by
  generalize ha : act = a at h
  induction h with
  | done => exact k
  | rested hr _ ih => exact .rested hr (ih k ha)
  | subscribed s ho _ ih => exact .subscribed s ho (ih k ha)
  | wrote hw _ _ ih => exact .wrote hw (ih k ha)
  | _ => cases ha

end Leads

end Activity

end Bxml
