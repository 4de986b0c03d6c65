import Bxml.Proofs.Observing.Recording

/-!
# Runs and their histories

What the recording of a run says about the run.

* `Recording.Records` ties a recording to an operation: it gives the same result and leaves the same
  world, and what it writes down is the history of an activity.  There is one lemma for each construct,
  then one for each step of `Recorder.write`, and `Records.write` by induction on how often changes
  may be passed on.  `Follows.records` is the induction on how a function is put together, whose step
  for a write inside the function is `Records.write`.
* `World.Observed` is what a history says about the changes and the calls of a run.
* `Recorder.observed_of_serve` is the main result: the recording of a list of writes and
  subscriptions leaves the world of the plain run, and each subscriber of a property is told once of
  each change that was made after it subscribed, and what the change replaced.  It is told of two
  changes in the order in which they were made unless the later one was made before it was told of
  the earlier one.  `exists_told_later_first` shows that this happens.

A world is exhausted when a change was passed on more often than the host allows, so nothing is
said of the runs that end in one.
-/

namespace Bxml

open World (StaysExhausted)

/-! ## What is written down -/

/-- Whether a recording does what an operation does, and writes down a history that an activity may
have, as long as the operation leaves a world that is not exhausted. -/
structure Recording.Records {ε α : Type} (x : Recording ε α) (y : Op ε α) (a : Activity) : Prop where
  erases : ∀ c, y.runIn c.world = ((x.runIn c).1, (x.runIn c).2.world)
  keeps : y.Keeps StaysExhausted
  leads : ∀ c, (x.runIn c).2.world.exhausted = false →
    a.Leads c.world c.history (x.runIn c).2.world (x.runIn c).2.history

namespace Recording.Records

variable {ε δ α β : Type} {x : Recording ε α} {y : Op ε α} {a : Activity}

/-- A recording that leaves a world which is not exhausted starts in one. -/
theorem not_exhausted (hx : x.Records y a) {c : Chronicle}
    (hc : (x.runIn c).2.world.exhausted = false) : c.world.exhausted = false := by
  refine Bool.eq_false_iff.2 fun hw => ?_
  have stays := hx.keeps.lasts (hx.erases c) hw
  exact Bool.false_ne_true (hc.symm.trans stays)

theorem rests (hy : ∀ w : World, w.Rests (y.runIn w).2) (keeps : y.Keeps StaysExhausted) :
    (lift y).Records y .act where
  erases _ := rfl
  keeps := keeps
  leads c _ := .rested (hy c.world) (.done _ _)

/-- What only looks at the world. -/
theorem of_still (h : ∀ w, (y.runIn w).2 = w) : (lift y).Records y .act where
  erases _ := rfl
  keeps w hw := by
    rw [h]
    exact hw
  leads c _ := by
    rw [lift_runIn, h]
    exact .done _ _

theorem pure (b : α) : (Pure.pure b : Recording ε α).Records (Pure.pure b) .act :=
  of_still (y := Pure.pure b) fun _ => rfl

theorem log (level : Level) (text : String) :
    (lift (.log level text) : Recording ε Unit).Records (.log level text) .act :=
  .rests (fun w => .log w level text) (.log level text)

theorem subscribe (p : Place) (s : Subscriber) :
    (Recording.subscribe p s : Recording ε Unit).Records (.change (·.subscribe p.object p.key s))
      .act where
  erases c := congrArg (Prod.mk _) (c.world_subscribe p s).symm
  keeps _ := id
  leads c _ := c.leads_subscribe p s

theorem mapError (f : ε → δ) (hx : x.Records y a) : (x.mapError f).Records (y.mapError f) a := by
  have same (c : Chronicle) : ((x.mapError f).runIn c).2 = (x.runIn c).2 := by
    rw [mapError_runIn]
    rcases x.runIn c with ⟨_ | _, _⟩ <;> rfl
  refine ⟨fun c => ?_, hx.keeps.mapError f, fun c hc => ?_⟩
  · rw [Op.mapError_runIn, hx.erases, mapError_runIn]
    rcases x.runIn c with ⟨_ | _, _⟩ <;> rfl
  · rw [same] at hc ⊢
    exact hx.leads c hc

theorem attempt (hx : x.Records y a) :
    (x.attempt : Recording δ (Except ε α)).Records y.attempt a where
  erases c := by rw [Op.attempt_runIn, hx.erases]; rfl
  keeps := hx.keeps.attempt
  leads c hc := hx.leads c hc

theorem bind {f : α → Recording ε β} {g : α → Op ε β} (hx : x.Records y .act)
    (hf : ∀ b, (f b).Records (g b) .act) : (x >>= f).Records (y >>= g) .act where
  erases c := by
    rw [Op.bind_runIn, hx.erases, bind_runIn]
    rcases x.runIn c with ⟨_ | b, d⟩
    · rfl
    · exact (hf b).erases d
  keeps := hx.keeps.bind fun b => (hf b).keeps
  leads c hc := by
    have first := hx.leads c
    rw [bind_runIn] at hc ⊢
    rcases hr : x.runIn c with ⟨_ | b, d⟩ <;> rw [hr] at hc first
    · exact first hc
    · exact (first ((hf b).not_exhausted hc)).append ((hf b).leads d hc)

theorem ite {p : Prop} [Decidable p] {x' : Recording ε α} {y' : Op ε α} (hx : x.Records y a)
    (hx' : x'.Records y' a) : (if p then x else x').Records (if p then y else y') a := by
  split
  · exact hx
  · exact hx'

/-- Writing is one of the things that may be done. -/
theorem act {p : Place} {v : Value} (hx : x.Records y (.write p v)) : x.Records y .act where
  erases := hx.erases
  keeps := hx.keeps
  leads c hc := .wrote (hx.leads c hc) (.done _ _)

/-- The call of a binding is written down before anything that the binding does. -/
theorem told {x : Recording ε Unit} {y : Op ε Unit} (hx : x.Records y .act) (k i : Nat) (b : Binding)
    (name : String) (previous : Value) :
    (note (.told k i (.binding b) name previous) >>= fun _ => x).Records y
      (.call k i (.binding b) name previous) where
  erases c := hx.erases ⟨c.world, c.history ++ [.told k i (.binding b) name previous]⟩
  keeps := hx.keeps
  leads c hc := .binding (hx.leads ⟨c.world, _⟩ hc)

end Recording.Records

namespace Recorder

open Recording (Records)

variable {R : Recorder}

/-- Whether the recordings of functions write down what the functions do. -/
def Records (R : Recorder) : Prop :=
  ∀ {e : EngineId} {name : String} {f : ScriptFunction},
    (R.host.engine e).functions.get? name = some f →
      ∀ h args, (R.function e name h args).Records (f h args) .act

/-- Nobody who is told of a change keeps the others from being told. -/
theorem exists_tell_eq_ok (R : Recorder) (write : RecordedWrite) (k i : Nat) (h : Held)
    (name : String) (previous : Value) (s : Subscriber) (c : Chronicle) :
    ∃ d, (R.tell write k i h name previous s).runIn c = (.ok (), d) := by
  unfold tell
  rw [Recording.bind_runIn, Recording.note_runIn]
  cases s with
  | watcher label => exact ⟨_, rfl⟩
  | binding b =>
    dsimp only
    rw [Recording.bind_runIn, Recording.attempt_runIn]
    rcases (R.copyAlong write h b).runIn _ with ⟨e | ⟨⟩, d⟩
    · exact ⟨_, rfl⟩
    · exact ⟨_, rfl⟩

namespace Records

variable (hR : R.Records)

include hR

theorem mapped (h : Held) (m : Option Mapping) (v : Value) :
    (R.mapped h m v).Records (R.host.mapped h m v) .act := by
  unfold Recorder.mapped Host.mapped
  split
  · refine .mapError _ ?_
    unfold Recorder.invoke Engine.invoke
    cases hf : (R.host.engine _).functions.get? _ with
    | some f => exact hR hf _ _
    | none => exact .of_still (y := throw _) fun _ => rfl
  · exact .pure v

variable {write : RecordedWrite} {plain : Write}
  (hw : ∀ h o name v, (write h o name v).Records (plain h o name v) (.write ⟨o, name⟩ v))

include hw

theorem copyAlong (h : Held) (b : Binding) :
    (R.copyAlong write h b).Records (R.host.copyAlong plain h b) .act := by
  unfold Recorder.copyAlong Host.copyAlong
  refine .bind (.of_still fun _ => rfl) fun alive => .ite ?_ (.pure ())
  refine .bind (.mapError _ (.of_still fun _ => rfl)) fun v => .bind (hR.mapped _ _ v) fun v => ?_
  refine .bind (.of_still fun _ => rfl) fun holds => .ite (.pure ()) ?_
  exact .mapError _ (hw _ _ _ _).act

/-- A subscriber that is told of a change is called. -/
theorem tell (k i : Nat) (h : Held) (name : String) (previous : Value) (s : Subscriber) :
    (R.tell write k i h name previous s).Records (R.host.tell plain h name previous s)
      (.call k i s name previous) := by
  cases s with
  | watcher label => exact ⟨fun _ => rfl, .emit _, fun c _ => .watcher ..⟩
  | binding b =>
    refine Recording.Records.told (.bind (.attempt (hR.copyAlong hw h b)) fun r => ?_) ..
    cases r with
    | ok _ => exact .pure ()
    | error e => exact .log _ _

/-- Those who are left to be told are called one after the other. -/
theorem tellAll (k : Nat) (h : Held) (name : String) (previous : Value) (i : Nat)
    (l : List Subscriber) :
    (R.tellAll write k h name previous i l).Records (l.forM (R.host.tell plain h name previous))
      (.tell k i l name previous) := by
  induction l generalizing i with
  | nil => exact ⟨fun _ => rfl, .pure (), fun _ _ => .nobody ..⟩
  | cons s l ih =>
    have told := hR.tell hw k i h name previous s
    have first (c : Chronicle) := R.exists_tell_eq_ok write k i h name previous s c
    have run {c d : Chronicle} (h₁ : (R.tell write k i h name previous s).runIn c = (.ok (), d)) :
        (R.tellAll write k h name previous i (s :: l)).runIn c =
          (R.tellAll write k h name previous (i + 1) l).runIn d := by
      change (R.tell write k i h name previous s >>= fun _ => _).runIn c = _
      rw [Recording.bind_runIn, h₁]
    refine ⟨fun c => ?_, .forM fun s => (hR.tell hw k i h name previous s).keeps, fun c hc => ?_⟩
    · obtain ⟨d, hd⟩ := first c
      rw [run hd, Op.forM_cons_runIn_of_ok (by rw [told.erases c, hd]), (ih (i + 1)).erases d]
    · obtain ⟨d, hd⟩ := first c
      rw [run hd] at hc ⊢
      have called := told.leads c
      rw [hd] at called
      exact .next (called ((ih (i + 1)).not_exhausted hc)) ((ih (i + 1)).leads d hc)

/-- Everybody who subscribed so far is told. -/
theorem publish_leads {k : Nat} {h : Held} {o : ObjectId} {name : String} {previous : Value}
    {c : Chronicle} (hc : ((R.publish write k h o name previous).runIn c).2.world.exhausted = false) :
    (Activity.tell k 0 (c.world.audience ⟨o, name⟩) name previous).Leads c.world c.history
      ((R.publish write k h o name previous).runIn c).2.world
      ((R.publish write k h o name previous).runIn c).2.history :=
  (hR.tellAll hw k h name previous 0 _).leads c hc

end Records

/-- A write is recorded if telling of its changes is. -/
theorem records_writeThen {x : Nat → Held → ObjectId → String → Value → Recording PropertyError Unit}
    {y : Held → ObjectId → String → Value → Op PropertyError Unit}
    (erases : ∀ k h o name previous c, (y h o name previous).runIn c.world =
      (((x k h o name previous).runIn c).1, ((x k h o name previous).runIn c).2.world))
    (keeps : ∀ h o name previous, (y h o name previous).Keeps StaysExhausted)
    (leads : ∀ {k h o name previous c},
      ((x k h o name previous).runIn c).2.world.exhausted = false →
        (Activity.tell k 0 (c.world.audience ⟨o, name⟩) name previous).Leads c.world c.history
          ((x k h o name previous).runIn c).2.world ((x k h o name previous).runIn c).2.history)
    (h : Held) (o : ObjectId) (name : String) (v : Value) :
    Recording.Records (RecordedWrite.writeThen x h o name v) (Host.writeThen y h o name v)
      (.write ⟨o, name⟩ v) where
  erases c := by
    unfold Op.runIn Recording.runIn Host.writeThen RecordedWrite.writeThen
    rcases c.world.assign o name v with e | ⟨w, _ | previous⟩
    · rfl
    · rfl
    · exact erases _ _ _ _ _ ⟨w, _⟩
  keeps := Host.Keeps.writeThen keeps h o name v
  leads c hc := by
    unfold Recording.runIn RecordedWrite.writeThen at hc ⊢
    cases hx : c.world.assign o name v with
    | error e => exact .refused _ hx
    | ok y =>
      have told (previous : Value) : y.previous = some previous ↔
          c.world.Alters ⟨o, name⟩ y.world ∧ c.world.value ⟨o, name⟩ = previous :=
        World.previous_eq_some_iff (p := ⟨o, name⟩) hx
      rw [hx] at hc
      obtain ⟨w, previous⟩ := y
      cases previous with
      | none => exact .kept _ hx fun alters => nomatch (told _).2 ⟨alters, rfl⟩
      | some previous =>
        obtain ⟨alters, rfl⟩ := (told previous).1 rfl
        exact .altered hx alters (leads hc)

/-- Every write of a host is written down if what its functions do is. -/
theorem Records.write (hR : R.Records) (n : Nat) (h : Held) (o : ObjectId) (name : String)
    (v : Value) : (R.write n h o name v).Records (R.host.write n h o name v) (.write ⟨o, name⟩ v) := by
  induction n generalizing h o name v with
  | zero =>
    refine records_writeThen (fun _ _ _ _ _ _ => rfl) (fun _ o name _ => .change fun w => ?_) ?_ h o
      name v
    · split
      · exact World.Lasting.refl w
      · exact World.Lasting.exhaust w
    · intro k h o name previous c hc
      rw [Recording.lift_runIn, Host.giveUp, Op.change_runIn] at hc ⊢
      dsimp only at hc ⊢
      -- a change is given up only where somebody has to be told of it
      split at hc
      · next nobody =>
        rw [if_pos nobody]
        unfold World.audience
        rw [List.isEmpty_iff.1 nobody]
        exact .nobody ..
      · cases hc
  | succ n ih =>
    refine records_writeThen (fun k h o name previous c => ?_) (fun h o name v => ?_)
      (hR.publish_leads ih) h o name v
    · exact (hR.tellAll ih k h name previous 0 _).erases c
    · exact .bind (.read _) fun _ => .forM fun s => (hR.tell ih 0 0 h name v s).keeps

end Recorder

/-- What is put together of steps that are written down is written down itself. -/
theorem Recording.Follows.records {ε α : Type} {x : Recording ε α} {y : Op ε α} (h : x.Follows y) :
    x.Records y .act := by
  induction h with
  | rests rests keeps => exact .rests rests keeps
  | subscribe p s => exact .subscribe p s
  | write R n h p a _ ih => exact (Recorder.Records.write ih n h p.object p.key a).act
  | bind _ _ ih ih' => exact .bind ih ih'
  | mapError f _ ih => exact .mapError f ih
  | attempt _ ih => exact .attempt ih

namespace Recorder

variable {R : Recorder}

theorem IsFaithful.records (hR : R.IsFaithful) : R.Records :=
  fun hf h args => (hR hf h args).records

theorem Records.serve_keeps (hR : R.Records) (requests : List Request) (w : World) :
    StaysExhausted w (R.host.serve requests w) := by
  induction requests generalizing w with
  | nil => exact id
  | cons request rest ih =>
    cases request with
    | write h p a => exact fun hw => ih _ ((hR.write _ h p.object p.key a).keeps w hw)
    | subscribe p s => exact fun hw => ih _ hw

/-- The recording of a run does to the world what the run does. -/
theorem Records.world_serve (hR : R.Records) (requests : List Request) (c : Chronicle) :
    (R.serve requests c).world = R.host.serve requests c.world := by
  induction requests generalizing c with
  | nil => rfl
  | cons request rest ih =>
    cases request with
    | write h p a =>
      unfold serve Host.serve
      rw [ih, Host.setProperty, (hR.write _ h p.object p.key a).erases]
      rfl
    | subscribe p s =>
      unfold serve Host.serve
      rw [ih, c.world_subscribe]

/-- The history of a run is one of an activity, if all changes are passed on to the end. -/
theorem Records.leads_serve (hR : R.Records) (requests : List Request) (c : Chronicle)
    (hc : (R.serve requests c).world.exhausted = false) :
    Activity.act.Leads c.world c.history (R.serve requests c).world (R.serve requests c).history := by
  induction requests generalizing c with
  | nil => exact .done _ _
  | cons request rest ih =>
    cases request with
    | write h p a =>
      unfold serve at hc ⊢
      have written := hR.write R.host.nesting h p.object p.key a
      have fine : ((R.setProperty h p.object p.key a).runIn c).2.world.exhausted = false := by
        refine Bool.eq_false_iff.2 fun hu => ?_
        have stays := hR.serve_keeps rest _ hu
        rw [← hR.world_serve, hc] at stays
        cases stays
      exact .wrote (written.leads c fine) (ih _ hc)
    | subscribe p s => exact (c.leads_subscribe p s).append (ih _ hc)

end Recorder

/-! ## What a history says -/

/-- What a history says about the changes that happen while a world becomes another, and about those
who are told of them. -/
structure World.Observed (w : World) (H : History) (u : World) : Prop where
  /-- The watchers among those who are called report what they are told, and nothing else is
  reported. -/
  reported : u.reported = w.reported ++ H.filterMap Occurrence.report?
  /-- The changes of a property lead from the value it had to the one it has, each replacing what the
  one before it stored. -/
  values : ∀ p : Place, p.object.index < w.objects.size →
    (w.object p.object).publishes = true → (w.value p).TurnsInto (H.changes p) (u.value p)
  /-- The audience of a change are those who subscribed to the property before, in the order in
  which they did. -/
  heard : ∀ (k : Nat) (p : Place) (old new : Value) (audience : List Subscriber),
    H[k]? = some (.changed p old new audience) →
      audience = w.audience p ++ History.joined (H.take k) p
  /-- Each of the audience of a change is told of it once, and what it replaced. -/
  once : ∀ (k i : Nat) (p : Place) (old new : Value) (audience : List Subscriber) (s : Subscriber),
    H[k]? = some (.changed p old new audience) → audience[i]? = some s →
      ∃! q : Nat, H[q]? = some (.told k i s p.key old)
  /-- Nobody else is called. -/
  called : ∀ (q k i : Nat) (s : Subscriber) (name : String) (previous : Value),
    H[q]? = some (.told k i s name previous) →
      k < q ∧ ∃ p new audience, H[k]? = some (.changed p previous new audience) ∧ p.key = name ∧
        audience[i]? = some s
  /-- Of two changes of a property a subscriber is told of the earlier one first if and only if that
  was before the later one was made. -/
  ordered : ∀ (k l i q q' : Nat) (p : Place) (old old' new new' : Value)
    (audience audience' : List Subscriber), k < l → H[k]? = some (.changed p old new audience) →
      H[l]? = some (.changed p old' new' audience') →
        H.Tells q k i → H.Tells q' l i → (q < q' ↔ q < l)

theorem Activity.Leads.observed {w u : World} {H : History} (h : Activity.act.Leads w [] u H) :
    w.Observed H u :=
  have tracks := h.tracks (.refl w)
  have orderly := h.orderly .nil
  { reported := tracks.reported
    values := tracks.values
    heard := tracks.heard
    once := fun _ _ _ _ _ _ _ hk hs => orderly.existsUnique_told hk hs
    called := fun _ _ _ _ _ _ hq => orderly.refers hq
    ordered := fun _ _ _ _ _ _ _ _ _ _ _ _ hkl _ _ hq hq' => orderly.lt_iff hkl hq hq' }

/-! ## Runs -/

namespace Recorder

variable {R : Recorder}

/-- The history of a run whose changes are passed on to the end says what happened in it. -/
theorem Records.observed (hR : R.Records) (requests : List Request) (w : World)
    (terminates : (R.host.serve requests w).exhausted = false) :
    w.Observed (R.serve requests ⟨w, []⟩).history (R.serve requests ⟨w, []⟩).world := by
  refine (hR.leads_serve requests ⟨w, []⟩ ?_).observed
  rw [hR.world_serve]
  exact terminates

/-- However those who subscribed write in turn: as long as changes are passed on to the end, each
subscriber of a property is told once of each change that is made after it subscribed, and of two
changes in the order in which they were made unless the later one was made before it was told of the
earlier one. -/
theorem observed_of_serve (hR : R.IsFaithful) (requests : List Request) (w : World)
    (terminates : (R.host.serve requests w).exhausted = false) :
    let run := R.serve requests ⟨w, []⟩
    run.world = R.host.serve requests w ∧ w.Observed run.history run.world := by
  have records : R.Records := hR.records
  exact ⟨records.world_serve requests ⟨w, []⟩, records.observed requests w terminates⟩

/-- A host with a function that writes, and the recording of that function. -/
def setting : Recorder where
  host := { Host.plain "none" with
    engine := fun _ => ⟨"none", Entries.empty.insert "set" fun h _ =>
      ((Host.plain "none").setProperty h ⟨0⟩ "y" (.bool true)).mapError (.failed ·.message) >>=
        fun _ => pure .null, none⟩ }
  function _ _ h _ :=
    ((plain "none").setProperty h ⟨0⟩ "y" (.bool true)).mapError (.failed ·.message) >>=
      fun _ => pure .null

theorem isFaithful_setting : setting.IsFaithful := by
  intro e name f hf h args
  have named : (Entries.empty.insert "set" _ : Entries ScriptFunction).get? name = some f := hf
  rw [Entries.get?_insert] at named
  split at named
  · cases named
    refine .bind (.mapError _ (.write (plain "none") _ h ⟨⟨0⟩, "y"⟩ _ (isFaithful_plain _))) ?_
    exact fun _ => .pure _
  · cases named

/-- What the function of a binding writes is told of before the watcher behind the binding is told
of the write that called it. -/
theorem observed_of_serve_setting :
    let held : Held := ⟨[.object ⟨0⟩], []⟩
    let requests : List Request := [
      .subscribe ⟨⟨0⟩, "x"⟩ (.binding ⟨⟨0⟩, "x", ⟨0⟩, "z", some ⟨⟨0⟩, "set"⟩⟩),
      .subscribe ⟨⟨0⟩, "x"⟩ (.watcher "x"), .subscribe ⟨⟨0⟩, "y"⟩ (.watcher "y"),
      .write held ⟨⟨0⟩, "x"⟩ (.int 1), .write held ⟨⟨0⟩, "x"⟩ (.int 2)]
    let w := (World.empty.alloc (.emptyDictionary "D")).2
    let run := setting.serve requests ⟨w, []⟩
    setting.IsFaithful ∧ (setting.host.serve requests w).exhausted = false ∧
      run.world = setting.host.serve requests w ∧ w.Observed run.history run.world := by
  intro held requests w run
  have terminates : (setting.host.serve requests w).exhausted = false := by decide +kernel
  exact ⟨isFaithful_setting, terminates, observed_of_serve isFaithful_setting requests w terminates⟩

/-- An object with a property that takes anything and one that takes strings. They are bound to each
other, and then somebody watches the first one. -/
def bound : World :=
  let slots := .ofList [("x", .writable .any .null), ("y", .writable .string .null)]
  (World.empty.alloc ⟨.bean ⟨"T", none, none, slots⟩, [
    ("x", .binding ⟨⟨0⟩, "x", ⟨0⟩, "y", none⟩), ("y", .binding ⟨⟨0⟩, "y", ⟨0⟩, "x", none⟩),
    ("x", .watcher "late")]⟩).2

/-- Where a binding comes before a watcher and has the property written again, the watcher is told
of the second change before it is told of the first one. -/
theorem exists_told_later_first :
    let requests : List Request := [.write ⟨[.object ⟨0⟩], []⟩ ⟨⟨0⟩, "x"⟩ (.bool true)]
    let w := bound
    let run := (plain "none").serve requests ⟨w, []⟩
    run.world = (Host.plain "none").serve requests w ∧ run.world.exhausted = false ∧
      run.world.reported = [.changed "late" "x" (.bool true), .changed "late" "x" .null] ∧
      ∃ (k l i q q' : Nat) (p : Place) (old old' new new' : Value)
        (audience audience' : List Subscriber), k < l ∧
          run.history[k]? = some (.changed p old new audience) ∧
          run.history[l]? = some (.changed p old' new' audience') ∧
          run.history.Tells q k i ∧ run.history.Tells q' l i ∧ q' < q := by
  intro requests w run
  let there : Binding := ⟨⟨0⟩, "x", ⟨0⟩, "y", none⟩
  let back : Binding := ⟨⟨0⟩, "y", ⟨0⟩, "x", none⟩
  let late : Subscriber := .watcher "late"
  have written : run.history = [
      .changed ⟨⟨0⟩, "x"⟩ .null (.bool true) [.binding there, late],
      .told 0 0 (.binding there) "x" .null,
      .changed ⟨⟨0⟩, "y"⟩ .null (.string "true") [.binding back],
      .told 2 0 (.binding back) "y" .null,
      .changed ⟨⟨0⟩, "x"⟩ (.bool true) (.string "true") [.binding there, late],
      .told 4 0 (.binding there) "x" (.bool true),
      .told 4 1 late "x" (.bool true),
      .told 0 1 late "x" .null] := by decide +kernel
  have records : (plain "none").Records := IsFaithful.records (isFaithful_plain "none")
  have world : run.world = (Host.plain "none").serve requests w :=
    records.world_serve requests ⟨w, []⟩
  have terminates : ((Host.plain "none").serve requests w).exhausted = false := by decide +kernel
  have observed : w.Observed run.history run.world := records.observed requests w terminates
  refine ⟨world, by rw [world, terminates], ?_, 0, 4, 1, 7, 6, ⟨⟨0⟩, "x"⟩, .null,
    .bool true, .bool true, .string "true", [.binding there, late], [.binding there, late],
    by decide, ?_⟩
  · rw [observed.reported, written]
    rfl
  · rw [written]
    exact ⟨rfl, rfl, ⟨late, "x", .null, rfl⟩, ⟨late, "x", .bool true, rfl⟩, by decide⟩

end Recorder

end Bxml
