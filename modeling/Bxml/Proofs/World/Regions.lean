import Bxml.Proofs.Twins.Alike
import Bxml.Proofs.World.Altering
import Bxml.Proofs.World.Gathering

/-!
# Regions

Two operations may change places if some objects are the only ones that the first looks at and
changes, and the second neither looks at nor changes any of these.  Such objects are a region.

* `Op.Confined` says that an operation is confined to a region: from every world in which the objects
  of the region are the same it comes to the same there, and leaves the rest of the world alone.
* `Op.Skirts` says that an operation skirts a region: from every world that is the same outside of the
  region it comes to the same there, and leaves the region alone.
* `alike_of_confined_of_skirts` is the result: the two come to the same in either order.

Both speak of one operation and of the worlds it may be run in, not of the order of two.  What an
operation holds besides what it needs does not count either, and ids may be added to tables while
it waits.  A list of operations skirts a region if each does where it is about to run
(`Op.Skirts.forM`).  Writing a property to which nothing is bound is confined to every region that
has the object, and skirts every other one.
-/

namespace Bxml

/-- Some objects of a world. -/
abbrev Region := ObjectId → Prop

variable {ε δ α β : Type} {B : Region} {w u v z : World} {o : ObjectId} {k : String} {a : Value}
  {h h' : Held}

namespace World

/-- Whether the objects of a region are in a later world as they were, and all ids are there still. -/
structure Retains (B : Region) (w u : World) : Prop where
  object : ∀ p, B p → u.object p = w.object p
  size : w.objects.size ≤ u.objects.size
  ids {t : TableId} {id : String} {a : Value} :
    (w.table t).get? id = some a → (u.table t).get? id = some a

/-- Whether two worlds differ at most in the objects of a region. -/
structure SameOutside (B : Region) (w u : World) : Prop where
  object : ∀ p, ¬ B p → u.object p = w.object p
  size : u.objects.size = w.objects.size
  tables : u.tables = w.tables

theorem Retains.refl (w : World) : w.Retains B w := ⟨fun _ _ => rfl, Nat.le_refl _, id⟩

theorem Retains.trans (h : w.Retains B u) (k : u.Retains B v) : w.Retains B v :=
  ⟨fun p hp => (k.object p hp).trans (h.object p hp), Nat.le_trans h.size k.size, k.ids ∘ h.ids⟩

theorem SameOutside.refl (w : World) : w.SameOutside B w := ⟨fun _ _ => rfl, rfl, rfl⟩

theorem SameOutside.symm (h : w.SameOutside B u) : u.SameOutside B w :=
  ⟨fun p hp => (h.object p hp).symm, h.size.symm, h.tables.symm⟩

theorem SameOutside.trans (h : w.SameOutside B u) (k : u.SameOutside B v) : w.SameOutside B v :=
  ⟨fun p hp => (k.object p hp).trans (h.object p hp), k.size.trans h.size, k.tables.trans h.tables⟩

theorem Agrees.object_eq (h : w.Agrees u) (p : ObjectId) : u.object p = w.object p := by
  unfold World.object
  rw [h.objects]

theorem Agrees.retains (h : w.Agrees u) : w.Retains B u where
  object p _ := h.object_eq p
  size := by rw [h.objects]
  ids {t id a} hg := by
    unfold table at hg ⊢
    rwa [← h.tables]

theorem Agrees.sameOutside (h : w.Agrees u) : w.SameOutside B u :=
  ⟨fun p _ => h.object_eq p, by rw [h.objects], h.tables.symm⟩

/-- Worlds that differ nowhere agree. -/
theorem SameOutside.agrees (h : w.SameOutside B u) (hB : ∀ p, B p → u.object p = w.object p) :
    w.Agrees u where
  objects := by
    refine Array.ext h.size.symm fun i hi hi' => ?_
    have same : u.object ⟨i⟩ = w.object ⟨i⟩ := by
      by_cases hp : B ⟨i⟩
      · exact hB _ hp
      · exact h.object _ hp
    unfold World.object at same
    rw [Array.getD, dif_pos hi', Array.getD, dif_pos hi] at same
    exact same.symm
  tables := h.tables.symm

theorem size_modify (w : World) (o : ObjectId) (f : Object → Object) :
    (w.modify o f).objects.size = w.objects.size :=
  Array.size_modify

theorem retains_modify (w : World) (ho : ¬ B o) (f : Object → Object) : w.Retains B (w.modify o f) where
  object p hp := by
    rw [object_modify_eq_ite, if_neg]
    rintro ⟨rfl, -⟩
    exact ho hp
  size := Nat.le_of_eq (size_modify w o f).symm
  ids hg := hg

theorem sameOutside_modify (w : World) (ho : B o) (f : Object → Object) :
    w.SameOutside B (w.modify o f) where
  object p hp := by
    rw [object_modify_eq_ite, if_neg]
    rintro ⟨rfl, -⟩
    exact hp ho
  size := size_modify w o f
  tables := rfl

theorem SameOutside.modify (h : w.SameOutside B u) (o : ObjectId) (f : Object → Object)
    (ho : ¬ B o) : (w.modify o f).SameOutside B (u.modify o f) where
  object p hp := by
    rw [object_modify_eq_ite, object_modify_eq_ite, h.size, h.object o ho, h.object p hp]
  size := by rw [size_modify, size_modify, h.size]
  tables := h.tables

theorem retains_putId {t : TableId} {id : String} (h : w.putId t id a = .ok v) : w.Retains B v where
  object p _ := by
    unfold World.object
    rw [objects_putId h]
  size := by rw [objects_putId h]
  ids := (Enduring.putId h : Gathers w v).ids

/-! ## Ends of runs -/

/-- Whether a run from a world comes to a certain end: it fails, or it leaves the objects of a region
in a certain state and everything else as it was. -/
inductive EndsIn (B : Region) (w : World) : Option (ObjectId → Object) → Except ε Unit × World → Prop
  | ok {f : ObjectId → Object} {v : World} : w.SameOutside B v → (∀ p, B p → v.object p = f p) →
      EndsIn B w (some f) (.ok (), v)
  | error {e : ε} {v : World} : EndsIn B w none (.error e, v)

/-- Whether two runs from two worlds come to the same outside of a region, and leave the region
alone. -/
inductive Beside (B : Region) (w u : World) : Except ε α × World → Except ε α × World → Prop
  | ok {a : α} {w' u' : World} : w.Retains B w' → u.Retains B u' → w'.SameOutside B u' →
      Beside B w u (.ok a, w') (.ok a, u')
  | error {e e' : ε} {w' u' : World} : Beside B w u (.error e, w') (.error e', u')

end World

open World

namespace Op

/-- Whether an operation, where `h` is held, looks at and changes nothing but the objects of a
region. -/
def Confined (x : Held → Op ε Unit) (B : Region) (h : Held) (w : World) : Prop :=
  ∃ r, ∀ h' u, h.Within h' → w.Retains B u → EndsIn B u r ((x h').runIn u)

/-- Whether an operation neither looks at nor changes an object of a region. -/
def Skirts (x : Op ε α) (B : Region) (w : World) : Prop :=
  ∀ u, w.SameOutside B u → Beside B w u (x.runIn w) (x.runIn u)

/-- An operation that is confined to a region may run before or after one that skirts it, and may
hold less or more than the other way round. -/
theorem alike_of_confined_of_skirts {x : Held → Op ε Unit} {y : Op ε Unit} {k : Held}
    (hx : Confined x B h w) (hy : y.Skirts B w) (hh : h.Within h') (hk : h.Within k) :
    Alike (fun _ => False) Eq ((y >>= fun _ => x h').runIn w) ((x k >>= fun _ => y).runIn w) := by
  obtain ⟨r, hr⟩ := hx
  have late (u : World) (hu : w.Retains B u) : EndsIn B u r ((x h').runIn u) := hr h' u hh hu
  have early := hr k w hk (.refl w)
  have alone := hy w (.refl w)
  rw [Op.bind_runIn, Op.bind_runIn]
  generalize hv : (x k).runIn w = i at early
  cases early with
  | error =>
    generalize hu : y.runIn w = j at alone
    cases alone with
    | error => exact .error
    | ok retains =>
      have ends := late _ retains
      dsimp only
      generalize (x h').runIn _ = i at ends
      cases ends with
      | error => exact .error
  | @ok f v outside inside =>
    have beside := hy v outside
    dsimp only
    generalize hu : y.runIn w = j at beside
    generalize hz : y.runIn v = j' at beside
    cases beside with
    | error => exact .error
    | @ok _ u z retains kept same =>
      have ends := late u retains
      dsimp only
      generalize (x h').runIn u = i at ends
      cases ends with
      | @ok _ v' outside' inside' =>
        refine .ok rfl ((outside'.symm.trans same).agrees fun p hp => ?_)
        rw [kept.object p hp, inside p hp, inside' p hp]

namespace Skirts

variable {x : Op ε α}

theorem pure (a : α) : Op.Skirts (pure a : Op ε α) B w :=
  fun u hu => .ok (.refl w) (.refl u) hu

theorem throw (e : ε) : Op.Skirts (throw e : Op ε α) B w := fun _ _ => .error

theorem ofExcept (r : Except ε α) : (Op.ofExcept r).Skirts B w := by
  cases r with
  | ok a => exact pure a
  | error e => exact throw e

/-- What is read must be the same whatever the objects of the region are like. -/
theorem read {f : World → α} (hf : ∀ u, w.SameOutside B u → f u = f w) :
    (Op.read f : Op ε α).Skirts B w := by
  intro u hu
  rw [Op.read_runIn, Op.read_runIn, hf u hu]
  exact .ok (.refl w) (.refl u) hu

theorem log (level : Level) (text : String) : (Op.log level text : Op ε Unit).Skirts B w :=
  fun u hu =>
    have before := World.Agrees.log w level text
    have after := World.Agrees.log u level text
    .ok before.retains after.retains (before.symm.sameOutside.trans (hu.trans after.sameOutside))

/-- Other objects may be changed. -/
theorem modify (ho : ¬ B o) {g : World → World} {f : Object → Object} (hg : ∀ u, g u = u.modify o f) :
    (Op.change g : Op ε Unit).Skirts B w := by
  intro u hu
  rw [Op.change_runIn, Op.change_runIn, hg, hg]
  exact .ok (retains_modify w ho f) (retains_modify u ho f) (hu.modify o f ho)

theorem bind {f : α → Op ε β} (hx : x.Skirts B w)
    (hf : ∀ {a v}, x.runIn w = (.ok a, v) → (f a).Skirts B v) : (x >>= f).Skirts B w := by
  intro u hu
  have first := hx u hu
  rw [Op.bind_runIn, Op.bind_runIn]
  generalize hr : x.runIn w = r at first
  generalize x.runIn u = r' at first
  cases first with
  | error => exact .error
  | @ok a v z hv hz same =>
    have second := hf hr z same
    dsimp only
    generalize (f a).runIn v = r at second
    generalize (f a).runIn z = r' at second
    cases second with
    | error => exact .error
    | ok hv' hz' same => exact .ok (hv.trans hv') (hz.trans hz') same

/-- What is done after something has been read. -/
theorem afterRead {f : World → α} {g : α → Op ε β} (hf : ∀ u, w.SameOutside B u → f u = f w)
    (hg : (g (f w)).Skirts B w) : (Op.read f >>= g).Skirts B w := by
  refine bind (read hf) fun {a v} h => ?_
  cases h
  exact hg

theorem mapError (hx : x.Skirts B w) (f : ε → δ) : (x.mapError f).Skirts B w := by
  intro u hu
  have run := hx u hu
  rw [Op.mapError_runIn, Op.mapError_runIn]
  generalize x.runIn w = r at run
  generalize x.runIn u = r' at run
  cases run with
  | error => exact .error
  | ok hv hz same => exact .ok hv hz same

/-- It is enough that each operation of a list skirts the region in the world in which it runs. -/
theorem forM {f : α → Op ε Unit} {l : List α}
    (hf : ∀ before a after u, l = before ++ a :: after → (before.forM f).runIn w = (.ok (), u) →
      (f a).Skirts B u) : (l.forM f).Skirts B w := by
  induction l generalizing w with
  | nil => exact pure ()
  | cons a l ih =>
    refine bind (hf [] a l w rfl rfl) fun {_ v} hv => ih fun before b after u hl hb => ?_
    exact hf (a :: before) b after u (congrArg _ hl) ((Op.forM_cons_runIn_of_ok hv).trans hb)

/-- An id is registered in a table, not in an object. -/
theorem putId (t : TableId) (id : String) (a : Value) :
    (Op.update (·.putId t id a)).Skirts B w := by
  intro u hu
  have same : u.table t = w.table t := by
    unfold World.table
    rw [hu.tables]
  rw [Op.update_runIn, Op.update_runIn]
  unfold World.putId
  rw [same]
  by_cases hc : (w.table t).contains id
  · rw [if_pos hc, if_pos hc]
    exact .error
  · rw [if_neg hc, if_neg hc]
    refine .ok (retains_putId (if_neg hc)) (retains_putId (if_neg ?_)) ⟨hu.object, hu.size, ?_⟩
    · rwa [same]
    · exact congrArg (fun ts => ts.modify t.index fun ids => ids.insert id a) hu.tables

end Skirts

end Op

/-! ## Writing properties -/

/-- Whether nothing is bound to the named property. -/
def Object.IsUnbound (x : Object) (name : String) : Prop := ∀ b, .binding b ∉ x.subscribersOf name

/-- Whether anything is bound to an object is a matter of who subscribed to it. -/
theorem Object.IsUnbound.of_subscribers {x y : Object} {name : String} (hx : x.IsUnbound name)
    (h : y.subscribers = x.subscribers) : y.IsUnbound name := by
  unfold IsUnbound subscribersOf
  rw [h]
  exact hx

namespace World

/-- What a write does depends on nothing but the object. -/
theorem assign_cases_of_object (ho : u.object o = w.object o) (k : String) (a : Value) :
    (∃ e e', w.assign o k a = .error e ∧ u.assign o k a = .error e') ∨
      ∃ f previous, w.assign o k a = .ok ⟨w.modify o f, previous⟩ ∧
        u.assign o k a = .ok ⟨u.modify o f, previous⟩ := by
  unfold assign
  rw [ho]
  split
  · next b hb =>
    split
    · exact .inl ⟨_, _, rfl, rfl⟩
    · next t previous hs =>
      cases hc : t.coerce w.typeName k a with
      | ok c =>
        rw [show t.coerce u.typeName k a = .ok c from
          ValueType.coerce_eq_ok.2 (ValueType.coerce_eq_ok.1 hc)]
        exact .inr ⟨_, _, rfl, rfl⟩
      | error e =>
        cases hc' : t.coerce u.typeName k a with
        | ok c => cases hc.symm.trans (ValueType.coerce_eq_ok.2 (ValueType.coerce_eq_ok.1 hc'))
        | error e' => exact .inl ⟨e, e', rfl, rfl⟩
    · exact .inl ⟨_, _, rfl, rfl⟩
  · exact .inr ⟨_, _, rfl, rfl⟩
  · split
    · exact .inr ⟨_, _, rfl, rfl⟩
    · exact .inl ⟨_, _, rfl, rfl⟩

end World

namespace Host

variable {host : Host}

/-- Those who are told of a change and are no bindings do no more than record it. -/
theorem agrees_forM_tell {l : List Subscriber} (hl : ∀ b, .binding b ∉ l) (write : Write) (h : Held)
    (name : String) (previous : Value) (w : World) :
    ∃ v, (l.forM (host.tell write h name previous)).runIn w = (.ok (), v) ∧ w.Agrees v := by
  induction l generalizing w with
  | nil => exact ⟨w, rfl, .refl w⟩
  | cons s l ih =>
    cases s with
    | binding b => exact absurd List.mem_cons_self (hl b)
    | watcher label =>
      let u := w.emit (.changed label name previous)
      have told : (host.tell write h name previous (.watcher label)).runIn w = (.ok (), u) := rfl
      obtain ⟨v, run, agrees⟩ := ih (fun b hb => hl b (List.mem_cons_of_mem _ hb)) u
      exact ⟨v, (Op.forM_cons_runIn_of_ok told).trans run, ⟨agrees.objects, agrees.tables⟩⟩

/-- Where nothing is bound to a property, writing it does no more than that. -/
theorem setProperty_of_unbound {x : Written} (hb : (w.object o).IsUnbound k)
    (hx : w.assign o k a = .ok x) (h : Held) :
    ∃ v, (host.setProperty h o k a).runIn w = (.ok (), v) ∧ x.world.Agrees v := by
  obtain ⟨u, previous⟩ := x
  unfold setProperty Op.runIn
  cases host.nesting with
  | zero =>
    unfold Host.write writeThen
    rw [hx]
    cases previous with
    | none => exact ⟨u, rfl, .refl u⟩
    | some previous =>
      refine ⟨_, rfl, ?_⟩
      dsimp only
      split
      · exact .refl u
      · exact ⟨rfl, rfl⟩
  | succ n =>
    unfold Host.write writeThen
    rw [hx]
    cases previous with
    | none => exact ⟨u, rfl, .refl u⟩
    | some previous =>
      have same : (u.object o).subscribersOf k = (w.object o).subscribersOf k := by
        unfold Object.subscribersOf
        rw [subscribers_of_assign (p := ⟨o, k⟩) hx o]
      dsimp only
      exact agrees_forM_tell (fun b hm => hb b (same ▸ hm)) _ _ _ _ u

/-- Where nothing is bound to a property of an object, writing it skirts every region without that
object. -/
theorem skirts_setProperty (ho : ¬ B o) (hb : (w.object o).IsUnbound k) (h : Held) (a : Value) :
    (host.setProperty h o k a).Skirts B w := by
  intro u hu
  have same := hu.object o ho
  obtain ⟨e, e', hw, hu'⟩ | ⟨f, previous, hw, hu'⟩ := assign_cases_of_object same k a
  · rw [setProperty_of_refused h hw, setProperty_of_refused h hu']
    exact .error
  · obtain ⟨v, run, hv⟩ := host.setProperty_of_unbound hb hw h
    obtain ⟨z, run', hz⟩ := host.setProperty_of_unbound (same ▸ hb) hu' h
    rw [run, run']
    exact .ok ((retains_modify w ho f).trans hv.retains) ((retains_modify u ho f).trans hz.retains)
      (hv.symm.sameOutside.trans ((hu.modify o f ho).trans hz.sameOutside))

end Host

namespace Op.Confined

/-- A change of an object of the region, which exists, depends on nothing else. -/
theorem endsIn_modify (hu : w.Retains B u) (exist : ∀ p, B p → p.index < w.objects.size) (ho : B o)
    (f : Object → Object) (hv : (u.modify o f).Agrees v) :
    EndsIn B u (some fun p => (w.modify o f).object p) ((.ok (), v) : Except ε Unit × World) := by
  refine .ok ((sameOutside_modify u ho f).trans hv.sameOutside) fun p hp => ?_
  have here := exist o ho
  rw [hv.object_eq, object_modify _ _ _ f here, object_modify _ _ _ f (Nat.lt_of_lt_of_le here hu.size),
    hu.object o ho, hu.object p hp]

/-- Where nothing is bound to a property of an object, writing it is confined to every region that has
the object. -/
theorem setProperty (host : Host) (exist : ∀ p, B p → p.index < w.objects.size) (ho : B o)
    (hb : (w.object o).IsUnbound k) (a : Value) (h : Held) :
    Confined (fun h => host.setProperty h o k a) B h w := by
  have same {u : World} (hu : w.Retains B u) := assign_cases_of_object (hu.object o ho) k a
  obtain ⟨e, e', hw, -⟩ | ⟨f, previous, hw, -⟩ := assign_cases_of_object (rfl : w.object o = _) k a
  · refine ⟨none, fun h' u _ hu => ?_⟩
    obtain ⟨_, e', -, hu'⟩ | ⟨_, _, hw', -⟩ := same hu
    · rw [Host.setProperty_of_refused h' hu']
      exact .error
    · cases hw.symm.trans hw'
  · refine ⟨some fun p => (w.modify o f).object p, fun h' u _ hu => ?_⟩
    obtain ⟨_, _, hw', -⟩ | ⟨g, _, hw', hu'⟩ := same hu
    · cases hw.symm.trans hw'
    · obtain ⟨v, run, hv⟩ := host.setProperty_of_unbound (hu.object o ho ▸ hb) hu' h'
      have same : w.modify o f = w.modify o g := (Written.mk.inj (Except.ok.inj (hw.symm.trans hw'))).1
      rw [run, same]
      exact endsIn_modify hu exist ho g hv

end Op.Confined

end Bxml
