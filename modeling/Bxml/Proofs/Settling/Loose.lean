import Bxml.Proofs.Settling.Flow
import Mathlib.Data.List.Chain
import Mathlib.Data.List.Nodup

/-!
# Loose slots

As long as no firm slot changes, a value comes along unaltered, except that slots for strings store
its text.  The text fills whatever it comes to.  The value itself is passed on through slots for any
value, and never comes back to one of them: where the text has overtaken it, it has filled all slots
on the way, up to the last.

* `filling` is about the text: slots that store it change once at most, so that it comes to an end
  by the number of loose slots that are behind.
* `spreading` is about the value itself.  It may come back to a slot that has the text by then, and
  would alter it again; `Overtakes` is the invariant that excludes this, on the path along which the
  value came (`Route`).
* `Settles.succ` puts them together for one restless slot more, and `settles` is the induction.

A value and its text are both stored by loose slots, so that slots of these types are not fixed, and
the count of `Settling/Flow.lean` does not cover them.
-/

namespace Bxml

namespace Flow

variable {F : Flow} {w u v : World} {p q : Place} {a c s : Value} {t : ValueType} {b : Binding}
  {h h' : Held} {k m : Nat} {path : List Place}

/-- Whether a place is a slot for any value or for strings. -/
def IsLoose (F : Flow) (p : Place) : Prop := ∃ t, F.start.slotType? p = some t ∧ t.isFirm = false

theorem loose_of_isGoal (hp : F.IsGoal p t) (hl : t.isFirm = false) : F.IsLoose p :=
  ⟨t, hp.slotType, hl⟩

/-! ## What fills slots -/

/-- Whether loose slots change to nothing but `s`. -/
def Gets (F : Flow) (s : Value) (w u : World) : Prop :=
  ∀ p, F.IsLoose p → u.value p = w.value p ∨ u.value p = s

/-- Whether loose slots change to nothing but `s`, which does not stop on its way through slots for
any value that are held. -/
structure Fills (F : Flow) (s : Value) (h : Held) (w u : World) : Prop where
  gets : F.Gets s w u
  passes : ∀ p b, F.IsLoose p → .binding b ∈ (F.start.object p.object).subscribersOf p.key →
    F.start.slotType? b.goal = some .any → .object b.target ∈ h.values →
    ((w.value p == s) = true → (w.value b.goal == s) = true) →
    (u.value p == s) = true → (u.value b.goal == s) = true

namespace Fills

theorem refl (w : World) : F.Fills s h w w := ⟨fun _ _ => .inl rfl, fun _ _ _ _ _ _ hw => hw⟩

/-- Nothing loose has changed. -/
theorem of_same (hu : ∀ q t, F.start.slotType? q = some t → t.isFirm = false →
    u.value q = w.value q) : F.Fills s h w u where
  gets p hp := by
    obtain ⟨t, ht, hl⟩ := hp
    exact .inl (hu p t ht hl)
  passes p b hp _ hb _ hw := by
    obtain ⟨t, ht, hl⟩ := hp
    rwa [hu p t ht hl, hu b.goal .any hb rfl]

theorem trans (hw : F.Fills s h w u) (hu : F.Fills s h u v) : F.Fills s h w v where
  gets p hp := by
    rcases hu.gets p hp with hv | hv
    · rw [hv]
      exact hw.gets p hp
    · exact .inr hv
  passes p b hp hs hb ht hi := hu.passes p b hp hs hb ht (hw.passes p b hp hs hb ht hi)

theorem mono (hu : F.Fills s h' w u) (hh : h.values ⊆ h'.values) : F.Fills s h w u :=
  ⟨hu.gets, fun p b hp hs hb ht => hu.passes p b hp hs hb (hh ht)⟩

end Fills

/-- A slot that holds `s` goes on to do so. -/
theorem Gets.filled (hu : F.Gets s w u) (hs : F.values s) (hp : F.IsLoose p)
    (hw : (w.value p == s) = true) : (u.value p == s) = true := by
  rcases hu p hp with hv | hv
  · rwa [hv]
  · rw [hv]
    exact F.equal hs

/-- Whether a binding leads to a loose slot that does not hold a value. -/
def isBehind (F : Flow) (w : World) (s : Value) (b : Binding) : Bool :=
  match F.start.slotType? b.goal with
  | some t => !t.isFirm && !(w.value b.goal == s)
  | none => false

/-- How many bindings lead to loose slots that do not hold a value. -/
def behind (F : Flow) (w : World) (s : Value) : Nat := F.start.bindings.countP (F.isBehind w s)

theorem isBehind_iff : F.isBehind w s b = true ↔
    F.IsLoose b.goal ∧ ¬ (w.value b.goal == s) = true := by
  unfold isBehind IsLoose
  cases ht : F.start.slotType? b.goal with
  | none => simp
  | some t => simp

theorem behind_le_length (F : Flow) (w : World) (s : Value) :
    F.behind w s ≤ F.start.bindings.length := List.countP_le_length

/-- No loose slot turns a flow. -/
theorem turns_of_loose (hl : t.isFirm = false) : F.turns t = false :=
  Bool.eq_false_iff.2 fun turns => by
    rw [F.isFirm_of_turns turns] at hl
    cases hl

theorem Gets.isBehind (hu : F.Gets s w u) (hs : F.values s) (hb : F.isBehind u s b = true) :
    F.isBehind w s b = true := by
  rw [isBehind_iff] at hb ⊢
  exact ⟨hb.1, fun hw => hb.2 (hu.filled hs hb.1 hw)⟩

theorem Gets.behind_le (hu : F.Gets s w u) (hs : F.values s) : F.behind u s ≤ F.behind w s :=
  List.countP_mono_left fun _ _ hb => hu.isBehind hs hb

/-- The slot that is filled is behind no more. -/
theorem Gets.behind_lt (hu : F.Gets s w u) (hs : F.values s) (hp : F.IsGoal p t)
    (hl : t.isFirm = false) (hn : ¬ (w.value p == s) = true) (hv : (u.value p == s) = true) :
    F.behind u s < F.behind w s := by
  obtain ⟨b, hb, rfl⟩ := hp.binding
  refine countP_lt_of_mem (fun _ hc => hu.isBehind hs hc) hb ?_ ?_
  · exact fun hb => (isBehind_iff.1 hb).2 hv
  · exact isBehind_iff.2 ⟨loose_of_isGoal hp hl, hn⟩

theorem gets_of_stored {x : World.Written} (hx : World.Stored w p a s x) : F.Gets s w x.world := by
  intro q _
  by_cases hq : q = p
  · rw [hq]
    exact .inr hx.value_self
  · exact .inl (hx.value_of_ne q hq)

/-- What is stored in a slot fills it if it goes on from there. -/
theorem fills_of_stored {x : World.Written} (hs : F.values s) (hx : World.Stored w p a s x)
    (hu : F.Fills s h x.world u)
    (self : ∀ b, .binding b ∈ (F.start.object p.object).subscribersOf p.key →
      F.start.slotType? b.goal = some .any → .object b.target ∈ h.values →
      ((w.value p == s) = true → (w.value b.goal == s) = true) →
      (u.value p == s) = true → (u.value b.goal == s) = true) : F.Fills s h w u where
  gets q hq := by
    rcases hu.gets q hq with hv | hv
    · rw [hv]
      exact gets_of_stored hx q hq
    · exact .inr hv
  passes q b hq hb hany hheld hw := by
    by_cases he : q = p
    · subst he
      exact self b hb hany hheld hw
    · refine hu.passes q b hq hb hany hheld fun hqs => ?_
      rw [hx.value_of_ne q he] at hqs
      by_cases hg : b.goal = p
      · rw [hg, hx.value_self]
        exact F.equal hs
      · rw [hx.value_of_ne _ hg]
        exact hw hqs

/-- Whether writes that store `s` in a loose slot come to an end, as long as at most `j` loose slots
are behind, and fill what they come to, unless a firm slot changes. -/
def Filling (F : Flow) (s : Value) (k m j : Nat) : Prop :=
  ∀ {w h p t a}, F.Inside k w → F.IsGoal p t → t.isFirm = false →
    F.values a → (∀ c, t.stored? a = some c → c = s) → ¬ (w.value p == a) = true →
    F.behind w s ≤ j →
    Lands (m + 1 + j) h p a w fun u => F.Later k w u ∨ F.Runs w u ∧
      F.Fills s h w u ∧ (t = .any → (u.value p == s) = true)

/-- What is told to the subscribers of a slot that has come to hold `s` fills on. -/
theorem exists_filling {j : Nat} (filling : F.Filling s k m j) (settles : F.Settles k m)
    (hs : F.values s) (text : F.types .string → ∀ c, ValueType.string.stored? s = some c → c = s)
    (hw : F.Inside k w) (hp : F.start.slotType? p = some t) (hl : t.isFirm = false)
    (hv : w.value p = s) (hj : F.behind w s ≤ j) (hh : .object p.object ∈ h.values)
    (previous : Value) :
    ∃ u, Ends (m + 1 + j) (fun host k => host.publish (host.write k) h p.object p.key previous) w
        (.ok (), u) ∧ (F.Later k w u ∨ F.Runs w u ∧ F.Fills s h w u ∧
          ∀ b, .binding b ∈ (F.start.object p.object).subscribersOf p.key →
            F.start.slotType? b.goal = some .any → .object b.target ∈ h.values →
            (u.value b.goal == s) = true) := by
  let I (told : List Subscriber) (v : World) : Prop := F.Later k w v ∨ F.Runs w v ∧
    F.Fills s h w v ∧ ∀ b, .binding b ∈ told → F.start.slotType? b.goal = some .any →
      .object b.target ∈ h.values → (v.value b.goal == s) = true
  have slot := (hw.reaches.slotType p).trans hp
  -- those who were told keep what they have
  have more {told : List Subscriber} {s' : Subscriber} {v u : World} (fills : F.Fills s h w v)
      (before : ∀ b, .binding b ∈ told → F.start.slotType? b.goal = some .any →
        .object b.target ∈ h.values → (v.value b.goal == s) = true) (hu : F.Fills s h v u)
      (here : ∀ b, s' = .binding b → F.start.slotType? b.goal = some .any →
        .object b.target ∈ h.values → (u.value b.goal == s) = true) :
      F.Fills s h w u ∧ ∀ b, .binding b ∈ told ++ [s'] → F.start.slotType? b.goal = some .any →
        .object b.target ∈ h.values → (u.value b.goal == s) = true := by
    refine ⟨fills.trans hu, fun b hb hany hheld => ?_⟩
    rcases List.mem_append.1 hb with hb | hb
    · exact hu.gets.filled hs ⟨.any, hany, rfl⟩ (before b hb hany hheld)
    · exact here b (List.mem_singleton.1 hb).symm hany hheld
  have step : ∀ told s' rest v, (w.object p.object).subscribersOf p.key = told ++ s' :: rest →
      I told v → ∃ u, Ends (m + 1 + j)
        (fun host k => host.tell (host.write k) h p.key previous s') v (.ok (), u) ∧
          I (told ++ [s']) u := by
    intro told s' rest v hsubs state
    have hs' : s' ∈ (F.start.object p.object).subscribersOf p.key := by
      rw [← hw.reaches.subscribersOf, hsubs]
      exact List.mem_append_right _ List.mem_cons_self
    rcases state with later | ⟨runs, fills, before⟩
    · -- a firm slot has changed: all writes come to an end
      obtain ⟨u, hu, later'⟩ := Later.exists_tell (h := h) settles hw.reaches later
        ((later.moves.slotType p).trans slot) hs' previous
        (later.admits hw.reaches hw.turning slot (turns_of_loose hl) (hv ▸ hs))
      exact ⟨u, hu.mono (by omega), .inl later'⟩
    · have hwv := hw.of_runs runs
      have value : v.value p = s := by
        rcases fills.gets p ⟨t, hp, hl⟩ with h | h
        · rw [h, hv]
        · exact h
      have emit : ∀ u e, I (told ++ [s']) u → I (told ++ [s']) (u.emit e) := by
        rintro u e (later | ⟨runs, fills, rest⟩)
        · exact .inl (later.emit e)
        · exact .inr ⟨Wiring.Leads.emit runs e, ⟨fills.gets, fills.passes⟩, rest⟩
      refine Wiring.exists_tell hwv.reaches ((runs.slotType p).trans slot) hs' previous
        (fun idle => .inr ⟨runs, more fills before (.refl v) ?_⟩) emit fun b hsb hb hn => ?_
      · rintro b rfl _ hheld
        rw [← value]
        exact idle b rfl hh hheld
      · obtain ⟨t', goal⟩ := Wiring.isGoal_of_mem hb
        rw [value] at hn ⊢
        cases hf : t'.isFirm with
        | true =>
          refine ((lands_of_firm settles hwv goal hf hs hn).mono (by omega)).weaken ?_
          rintro u (later | ⟨hu, same⟩)
          · exact .inl (.of_runs runs later)
          · refine .inr ⟨runs.trans hu, more fills before (.of_same same) ?_⟩
            rintro b' rfl hany
            cases hsb
            cases hany.symm.trans goal.slotType
            cases hf
        | false =>
          have stores : ∀ c, t'.stored? s = some c → c = s := by
            cases t' with
            | any => exact fun c hc => (Option.some.inj hc).symm
            | string => exact text goal.types
            | _ => cases hf
          refine (filling hwv goal hf hs stores hn
            (Nat.le_trans (fills.gets.behind_le hs) hj)).weaken ?_
          rintro u (later | ⟨hu, fills', here⟩)
          · exact .inl (.of_runs runs later)
          · refine .inr ⟨runs.trans hu, more fills before
              (fills'.mono (List.subset_append_right _ _)) ?_⟩
            rintro b' rfl hany _
            cases hsb
            cases hany.symm.trans goal.slotType
            exact here rfl
  obtain ⟨u, hu, result⟩ :=
    Bxml.exists_publish I (.inr ⟨.refl w, .refl w, fun _ hb => nomatch hb⟩) step
  rw [hw.reaches.subscribersOf] at result
  exact ⟨u, hu, result⟩

/-- What is written to a loose slot and does not change on its way fills what it comes to. -/
theorem filling (settles : F.Settles k m) (hs : F.values s)
    (text : F.types .string → ∀ c, ValueType.string.stored? s = some c → c = s) (j : Nat) :
    F.Filling s k m j := by
  induction j using Nat.strongRecOn with
  | ind j ih =>
    intro w h p t a hw hp hl ha hsa hn hj
    have ht := (hw.reaches.slotType p).trans hp.slotType
    cases hc : t.stored? a with
    | none =>
      obtain ⟨e, he⟩ := World.assign_of_refused ht hc
      refine lands_of_error he (.inr ⟨.refl w, .refl w, ?_⟩)
      rintro rfl
      cases hc
    | some c =>
      cases hsa c hc
      obtain ⟨x, hx, stored⟩ := World.assign_of_stored ht hc
      have runs : F.Runs w x.world := .of_stored ht hp.types ha hc stored
      have self : (x.world.value p == s) = true := by
        rw [stored.value_self]
        exact F.equal hs
      cases previous : x.previous with
      | none =>
        refine lands_of_quiet hx previous (.inr
          ⟨runs, fills_of_stored hs stored (.refl _) fun b _ hany _ hb _ => ?_, fun _ => self⟩)
        have goal := hb (stored.quiet previous)
        exact (gets_of_stored stored).filled hs ⟨.any, hany, rfl⟩ goal
      | some v =>
        have fewer : F.behind x.world s < F.behind w s :=
          (gets_of_stored stored).behind_lt hs hp hl (stored.told v previous hn) self
        obtain ⟨i, rfl⟩ := Nat.exists_eq_add_one_of_ne_zero (n := j) (by omega)
        obtain ⟨u, hu, result⟩ := exists_filling (h := h.keep [.object p.object, a, v])
          (ih i (Nat.lt_succ_self i)) settles hs text (hw.of_runs runs) hp.slotType hl
          stored.value_self (by omega) List.mem_cons_self v
        refine lands_of_told hx previous hu (result.imp (.of_runs runs) ?_)
        rintro ⟨after, fills, told⟩
        have kept : h.values ⊆ (h.keep [.object p.object, a, v]).values :=
          List.subset_append_right _ _
        refine ⟨runs.trans after, fills_of_stored hs stored (fills.mono kept)
          fun b hb hany hheld _ _ => told b hb hany (kept hheld), fun _ => ?_⟩
        exact fills.gets.filled hs (loose_of_isGoal hp hl) self

/-! ## What is passed on unaltered -/

/-- Whether bindings lead along a path of slots for any value, the last of which comes first. -/
structure Route (F : Flow) (path : List Place) : Prop where
  goal : ∀ p ∈ path, F.IsGoal p .any
  follows : path.IsChain fun q p =>
    ∃ b, .binding b ∈ (F.start.object p.object).subscribersOf p.key ∧ b.goal = q

/-- Whether `s` has come to the place after every place on a path to which it has come. -/
def Overtakes (s : Value) (path : List Place) (w : World) : Prop :=
  path.IsChain fun q p => (w.value p == s) = true → (w.value q == s) = true

theorem Route.tail (hr : F.Route (p :: path)) : F.Route path :=
  ⟨fun q hq => hr.goal q (List.mem_cons_of_mem p hq), hr.follows.tail⟩

theorem Overtakes.congr (ho : Overtakes s path w) (hu : ∀ p ∈ path, u.value p = w.value p) :
    Overtakes s path u := by
  induction path with
  | nil => exact .nil
  | cons q path ih =>
    cases path with
    | nil => exact .singleton q
    | cons p path =>
      obtain ⟨first, rest⟩ := List.isChain_cons_cons.1 ho
      refine List.isChain_cons_cons.2 ⟨?_, ih rest fun p hp => hu p (List.mem_cons_of_mem q hp)⟩
      rwa [hu q List.mem_cons_self, hu p (List.mem_cons_of_mem q List.mem_cons_self)]

theorem overtakes_of_not_beq (h : ∀ p ∈ path, ¬ (w.value p == s) = true) :
    Overtakes s path w := by
  induction path with
  | nil => exact .nil
  | cons q path ih =>
    obtain ⟨_, hp⟩ := List.forall_mem_cons.1 h
    cases path with
    | nil => exact .singleton q
    | cons p path =>
      exact List.isChain_cons_cons.2 ⟨fun hs => absurd hs (hp p List.mem_cons_self), ih hp⟩

/-- Where `s` has not come to the end of a path, it has come nowhere on it. -/
theorem Overtakes.not_beq (ho : Overtakes s (q :: path) w) (hq : ¬ (w.value q == s) = true) :
    ∀ p ∈ path, ¬ (w.value p == s) = true := by
  induction path generalizing q with
  | nil => exact List.forall_mem_nil _
  | cons p path ih =>
    obtain ⟨first, rest⟩ := List.isChain_cons_cons.1 ho
    have hp : ¬ (w.value p == s) = true := fun h => hq (first h)
    exact List.forall_mem_cons.2 ⟨hp, ih rest hp⟩

/-- What fills slots goes to the end of a path. -/
theorem Fills.overtakes (hu : F.Fills s h w u) (hr : F.Route path)
    (hh : ∀ p ∈ path, .object p.object ∈ h.values) (ho : Overtakes s path w) :
    Overtakes s path u := by
  induction path with
  | nil => exact .nil
  | cons q path ih =>
    cases path with
    | nil => exact .singleton q
    | cons p path =>
      obtain ⟨first, rest⟩ := List.isChain_cons_cons.1 ho
      obtain ⟨⟨b, hb, rfl⟩, -⟩ := List.isChain_cons_cons.1 hr.follows
      have goal := hr.goal b.goal List.mem_cons_self
      have origin := hr.goal p (List.mem_cons_of_mem _ List.mem_cons_self)
      refine List.isChain_cons_cons.2
        ⟨?_, ih hr.tail (fun p hp => hh p (List.mem_cons_of_mem _ hp)) rest⟩
      exact hu.passes p b (loose_of_isGoal origin rfl) hb goal.slotType (hh b.goal List.mem_cons_self) first

/-- Whether loose slots change to nothing but `c` and `s`. -/
def Mixes (F : Flow) (c s : Value) (w u : World) : Prop :=
  ∀ p, F.IsLoose p → u.value p = w.value p ∨ u.value p = c ∨ u.value p = s

theorem Mixes.trans (hw : F.Mixes c s w u) (hu : F.Mixes c s u v) : F.Mixes c s w v := by
  intro p hp
  rcases hu p hp with hv | hv
  · rw [hv]
    exact hw p hp
  · exact .inr hv

theorem Gets.mixes (hu : F.Gets s w u) : F.Mixes c s w u := fun p hp => (hu p hp).imp id .inr

/-- Whether the writing of `c` to a slot for any value comes to an end, provided that it came there
along slots for any value that all hold `c`, at most `j` fewer than there are bindings; unless a
firm slot changes, its text `s` overtakes it nowhere on its way but up to the last of these. -/
def Spreading (F : Flow) (c s : Value) (k m j : Nat) : Prop :=
  ∀ {w h p path}, F.Inside k w → F.Route (p :: path) → path.Nodup →
    (∀ q ∈ path, w.value q = c ∧ .object q.object ∈ h.values) → ¬ (w.value p == c) = true →
    F.start.bindings.length ≤ j + path.length →
    Lands (m + 1 + F.start.bindings.length + j) h p c w fun u => F.Later k w u ∨ F.Runs w u ∧
      F.Mixes c s w u ∧ Overtakes s path u

theorem Route.length_le (hr : F.Route path) (hn : path.Nodup) :
    path.length ≤ F.start.bindings.length := by
  have goals : path ⊆ F.start.bindings.map Binding.goal := by
    intro p hp
    obtain ⟨b, hb, rfl⟩ := (hr.goal p hp).binding
    exact List.mem_map_of_mem hb
  simpa using (hn.subperm goals).length_le

/-- What is told to the subscribers of the last slot of a path that has come to hold `c`. -/
theorem exists_spreading {j : Nat} (spreading : F.Spreading c s k m j) (settles : F.Settles k m)
    (hc : F.values c) (hs : F.values s) (text : ValueType.string.stored? c = some s)
    (other : ¬ (c == s) = true) (hw : F.Inside k w) (hr : F.Route (p :: path))
    (hn : (p :: path).Nodup) (hv : ∀ q ∈ p :: path, w.value q = c ∧ .object q.object ∈ h.values)
    (hj : F.start.bindings.length ≤ j + (path.length + 1)) (previous : Value) :
    ∃ u, Ends (m + 1 + F.start.bindings.length + j)
        (fun host k => host.publish (host.write k) h p.object p.key previous) w (.ok (), u) ∧
      (F.Later k w u ∨ F.Runs w u ∧ F.Mixes c s w u ∧ Overtakes s (p :: path) u) := by
  let Q (u : World) : Prop :=
    F.Later k w u ∨ F.Runs w u ∧ F.Mixes c s w u ∧ Overtakes s (p :: path) u
  have hp := (hr.goal p List.mem_cons_self)
  have slot := (hw.reaches.slotType p).trans hp.slotType
  have here := (hv p List.mem_cons_self).1
  have start : Overtakes s (p :: path) w := by
    refine overtakes_of_not_beq fun q hq => ?_
    rwa [(hv q hq).1]
  have step : ∀ told s' rest v, (w.object p.object).subscribersOf p.key = told ++ s' :: rest →
      Q v → ∃ u, Ends (m + 1 + F.start.bindings.length + j)
        (fun host k => host.tell (host.write k) h p.key previous s') v (.ok (), u) ∧ Q u := by
    intro told s' rest v hsubs state
    have hs' : s' ∈ (F.start.object p.object).subscribersOf p.key := by
      rw [← hw.reaches.subscribersOf, hsubs]
      exact List.mem_append_right _ List.mem_cons_self
    rcases state with later | ⟨runs, mixes, overtakes⟩
    · -- a firm slot has changed: all writes come to an end
      obtain ⟨u, hu, later'⟩ := Later.exists_tell (h := h) settles hw.reaches later
        ((later.moves.slotType p).trans slot) hs' previous
        (later.admits hw.reaches hw.turning slot (turns_of_loose rfl) (here ▸ hc))
      exact ⟨u, hu.mono (by omega), .inl later'⟩
    · have hwv := hw.of_runs runs
      have emit : ∀ u e, Q u → Q (u.emit e) := fun u e hq =>
        hq.imp (fun later => later.emit e) fun ⟨runs, hq⟩ => ⟨Wiring.Leads.emit runs e, hq⟩
      refine Wiring.exists_tell hwv.reaches ((runs.slotType p).trans slot) hs' previous
        (fun _ => .inr ⟨runs, mixes, overtakes⟩) emit fun b _ hb hb' => ?_
      obtain ⟨t', goal⟩ := Wiring.isGoal_of_mem hb
      have values : F.values (v.value p) := runs.values slot (turns_of_loose rfl) (here ▸ hc)
      have value : v.value p = c ∨ v.value p = s := by
        rcases mixes p (loose_of_isGoal hp rfl) with h | h
        · exact .inl (h.trans here)
        · exact h
      have held : ∀ q ∈ p :: path,
          .object q.object ∈ (h.keep [.object b.source, .object b.target]).values :=
        fun q hq => List.mem_append_right _ (hv q hq).2
      have filled (hl : t'.isFirm = false)
          (stores : ∀ c', t'.stored? (v.value p) = some c' → c' = s) :
          Lands (m + 1 + F.start.bindings.length + j)
            (h.keep [.object b.source, .object b.target]) b.goal (v.value p) v Q := by
        have again : F.types .string → ∀ c', ValueType.string.stored? s = some c' → c' = s :=
          fun _ c' hc' => Option.some.inj (hc'.symm.trans (ValueType.stored?_stored? text))
        have bound := F.behind_le_length v s
        refine ((filling settles hs again _ hwv goal hl values stores hb' le_rfl).mono
          (by omega)).weaken ?_
        rintro u (later | ⟨hu, fills, -⟩)
        · exact .inl (.of_runs runs later)
        · exact .inr ⟨runs.trans hu, mixes.trans fills.gets.mixes,
            fills.overtakes hr held overtakes⟩
      cases t' with
      | any =>
        rcases value with hvc | hvs
        · -- nowhere on the path has the text overtaken the value
          have clear : ∀ q ∈ path, ¬ (v.value q == s) = true :=
            overtakes.not_beq (by rwa [hvc])
          have all : ∀ q ∈ p :: path, v.value q = c := by
            rintro q (_ | ⟨_, hq⟩)
            · exact hvc
            · have hmem := List.mem_cons_of_mem p hq
              rcases mixes q (loose_of_isGoal (hr.goal q hmem) rfl) with h | h | h
              · exact h.trans (hv q hmem).1
              · exact h
              · exact absurd (by rw [h]; exact F.equal hs) (clear q hq)
          have route : F.Route (b.goal :: p :: path) :=
            ⟨List.forall_mem_cons.2 ⟨goal, hr.goal⟩,
              List.isChain_cons_cons.2 ⟨⟨b, hb, rfl⟩, hr.follows⟩⟩
          rw [hvc] at hb' ⊢
          refine (spreading hwv route hn (fun q hq => ⟨all q hq, held q hq⟩) hb' hj).weaken ?_
          rintro u (later | ⟨hu, mixes', overtakes'⟩)
          · exact .inl (.of_runs runs later)
          · exact .inr ⟨runs.trans hu, mixes.trans mixes', overtakes'⟩
        · refine filled rfl fun c' hc' => ?_
          rw [← hvs]
          exact (Option.some.inj hc').symm
      | string =>
        refine filled rfl fun c' hc' => ?_
        rcases value with hvc | hvs
        · rw [hvc] at hc'
          exact Option.some.inj (hc'.symm.trans text)
        · rw [hvs] at hc'
          exact Option.some.inj (hc'.symm.trans (ValueType.stored?_stored? text))
      | _ =>
        refine ((lands_of_firm settles hwv goal rfl values hb').mono (by omega)).weaken ?_
        rintro u (later | ⟨hu, same⟩)
        · exact .inl (.of_runs runs later)
        · refine .inr ⟨runs.trans hu, fun q hq => ?_, overtakes.congr fun q hq => ?_⟩
          · obtain ⟨t, ht, hl⟩ := hq
            rw [same q t ht hl]
            exact mixes q ⟨t, ht, hl⟩
          · exact same q .any (hr.goal q hq).slotType rfl
  obtain ⟨u, hu, hq⟩ := Bxml.exists_publish (fun _ => Q)
    (.inr ⟨.refl w, fun _ _ => .inl rfl, start⟩) step
  exact ⟨u, hu, hq⟩

/-- A value that has a text of its own spreads. -/
theorem spreading (settles : F.Settles k m) (hc : F.values c) (hs : F.values s)
    (text : ValueType.string.stored? c = some s) (other : ¬ (c == s) = true) (j : Nat) :
    F.Spreading c s k m j := by
  -- a slot that does not hold `c` is not yet on the path
  have longer {w : World} {h : Held} {p : Place} {path : List Place} (hr : F.Route (p :: path))
      (hn : path.Nodup) (hv : ∀ q ∈ path, w.value q = c ∧ .object q.object ∈ h.values)
      (hp : ¬ (w.value p == c) = true) :
      (p :: path).Nodup ∧ path.length + 1 ≤ F.start.bindings.length := by
    have nodup : (p :: path).Nodup := by
      refine List.nodup_cons.2 ⟨fun hm => hp ?_, hn⟩
      rw [(hv p hm).1]
      exact F.equal hc
    exact ⟨nodup, hr.length_le nodup⟩
  induction j with
  | zero =>
    intro w h p path hw hr hn hv hp hj
    have := (longer hr hn hv hp).2
    omega
  | succ j ih =>
    intro w h p path hw hr hn hv hp hj
    have goal := hr.goal p List.mem_cons_self
    have ht := (hw.reaches.slotType p).trans goal.slotType
    have nodup := (longer hr hn hv hp).1
    obtain ⟨x, hx, stored⟩ := World.assign_of_stored ht (ValueType.stored?_any c)
    have runs : F.Runs w x.world := .of_stored ht goal.types hc (ValueType.stored?_any c) stored
    cases previous : x.previous with
    | none => exact absurd (stored.quiet previous) hp
    | some v =>
      have all : ∀ q ∈ p :: path, x.world.value q = c ∧
          .object q.object ∈ (h.keep [.object p.object, c, v]).values := by
        rintro q (_ | ⟨_, hq⟩)
        · exact ⟨stored.value_self, List.mem_cons_self⟩
        · have hne : q ≠ p := fun he => (List.nodup_cons.1 nodup).1 (he ▸ hq)
          exact ⟨(stored.value_of_ne q hne).trans (hv q hq).1,
            List.mem_append_right _ (hv q hq).2⟩
      obtain ⟨u, hu, result⟩ := exists_spreading ih settles hc hs text other (hw.of_runs runs)
        hr nodup all (by omega) v
      refine lands_of_told hx previous hu (result.imp (.of_runs runs) ?_)
      rintro ⟨after, mixes, overtakes⟩
      refine ⟨runs.trans after, fun q hq => ?_, overtakes.tail⟩
      rcases mixes q hq with h | h
      · rw [h]
        by_cases he : q = p
        · rw [he]
          exact .inr (.inl stored.value_self)
        · exact .inl (stored.value_of_ne q he)
      · exact .inr h

/-! ## One firm slot more -/

/-- A write to a loose slot comes to an end if all writes do once a firm slot has changed. -/
theorem lands_of_loose (settles : F.Settles k m) (hw : F.Inside k w) (hp : F.IsGoal p t)
    (hl : t.isFirm = false) (ha : F.values a) (hn : ¬ (w.value p == a) = true) :
    Lands (m + 1 + 2 * F.start.bindings.length) h p a w fun u => F.Later k w u ∨ F.Runs w u := by
  -- where `a` stays what it is, it fills what it comes to
  have filled (text : F.types .string → ∀ c, ValueType.string.stored? a = some c → c = a)
      (stores : ∀ c, t.stored? a = some c → c = a) :
      Lands (m + 1 + 2 * F.start.bindings.length) h p a w fun u =>
        F.Later k w u ∨ F.Runs w u := by
    have bound := F.behind_le_length w a
    refine ((filling settles ha text _ hw hp hl ha stores hn le_rfl).mono (by omega)).weaken ?_
    exact fun _ hu => hu.imp id And.left
  cases t with
  | string =>
    have ht := (hw.reaches.slotType p).trans hp.slotType
    cases hc : ValueType.string.stored? a with
    | none =>
      obtain ⟨e, he⟩ := World.assign_of_refused ht hc
      exact lands_of_error he (.inr (.refl w))
    | some s =>
      have again : F.types .string → ∀ c, ValueType.string.stored? s = some c → c = s :=
        fun _ c h => Option.some.inj (h.symm.trans (ValueType.stored?_stored? hc))
      have stores : ∀ c, ValueType.string.stored? a = some c → c = s :=
        fun c h => Option.some.inj (h.symm.trans hc)
      have bound := F.behind_le_length w s
      refine ((filling settles (F.stored hp.types (turns_of_loose rfl) ha hc) again _ hw hp hl ha
        stores hn le_rfl).mono (by omega)).weaken ?_
      exact fun _ hu => hu.imp id And.left
  | any =>
    have stores : ∀ c, ValueType.any.stored? a = some c → c = a :=
      fun c h => (Option.some.inj h).symm
    by_cases strings : F.types .string
    case neg => exact filled (fun h => absurd h strings) stores
    cases hc : ValueType.string.stored? a with
    | none => exact filled (fun _ c h => nomatch hc.symm.trans h) stores
    | some s =>
      by_cases same : (a == s) = true
      · refine filled (fun _ c h => ?_) stores
        rw [ValueType.eq_of_beq_stored?_string hc same]
        exact Option.some.inj (h.symm.trans hc)
      · have route : F.Route [p] := ⟨List.forall_mem_singleton.2 hp, .singleton p⟩
        refine ((spreading settles ha (F.stored strings (turns_of_loose rfl) ha hc) hc same
          F.start.bindings.length) hw route .nil (List.forall_mem_nil _) hn (by simp)).mono
          (by omega) |>.weaken ?_
        exact fun _ hu => hu.imp id And.left
  | _ => cases hl

/-- Writes come to an end with one restless slot more. -/
theorem Settles.succ (settles : F.Settles k m) :
    F.Settles (k + 1) (m + 1 + 2 * F.start.bindings.length) := by
  intro w h p t a hw admits hp hn
  rcases admits with ⟨turned, ha⟩ | ⟨turning, few, ha⟩
  · refine ((settles hw (.inl ⟨turned, ha⟩) hp hn).mono (by omega)).weaken ?_
    exact fun _ hu => hu.mono (Nat.le_succ k)
  · have inside : F.Inside k w := ⟨hw, turning, Nat.le_of_lt_succ few⟩
    have later {u : World} (hu : F.Later k w u ∨ F.Runs w u) : F.Later (k + 1) w u := by
      rcases hu with later | runs
      · exact later.mono (Nat.le_succ k)
      · exact ⟨runs.moves, .inr ⟨runs, Nat.lt_succ_of_le (inside.of_runs runs).unsettled⟩⟩
    cases hf : t.isFirm with
    | true =>
      refine ((lands_of_firm settles inside hp hf ha hn).mono (by omega)).weaken ?_
      exact fun _ hu => later (hu.imp id And.left)
    | false => exact (lands_of_loose settles inside hp hf ha hn).weaken fun _ => later

/-- Writes come to an end, however many slots are restless. -/
theorem settles (F : Flow) (k : Nat) :
    F.Settles k (F.limit + k * (2 * F.start.bindings.length + 1)) := by
  induction k with
  | zero =>
    rintro w h p t a hw (⟨turned, ha⟩ | ⟨-, few, -⟩) hp hn
    · refine ((F.settled hw turned hp ha hn).mono (Nat.le_add_right _ _)).weaken fun u hu => ?_
      exact ⟨hu, .inl (turned.of_moves hw hu)⟩
    · exact absurd few (Nat.not_lt_zero _)
  | succ k ih =>
    have h : F.Settles (k + 1) _ := ih.succ
    rwa [Nat.add_assoc, Nat.add_comm 1, Nat.add_assoc, ← Nat.succ_mul] at h

end Flow

end Bxml
