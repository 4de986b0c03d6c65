import Bxml.Load.Document
import Mathlib.Tactic.ByContra

/-!
# Calls of the setter

The setter of attached properties comes from outside.  An operation in which it is left open shows
with what it calls the setter: it comes to the call in the same way for all setters, and goes on
from the call in the same way.

`AttachesOnce x w call` says that `x`, which takes the setter as an argument, makes exactly one call
of it: there are steps before it that do not depend on the setter, then the call, then steps that
depend only on its result.  The closure lemmas (`of_call`, `after`, `bind`, `onError`) are for those
who show it of an operation, and `unique` says that it determines the call: a setter that fails for
this call and no other tells two calls apart.
-/

namespace Bxml

/-- What sets the properties that types attach to objects of other types. -/
abbrev Attacher := Held → String → String → ObjectId → Value → Op FactoryError Unit

/-- The loader with another setter for attached properties. -/
def Loader.attaching (l : Loader) (f : Attacher) : Loader :=
  { l with factory := { l.factory with attach := f } }

/-- A call of the setter: the type that attaches, its property, the object it is attached to, and
what it is set to. -/
structure AttachCall where
  owner : String
  property : String
  object : ObjectId
  value : Value

/-- Whether an operation in which a setter is left open makes exactly one call of it. Whatever the
setter does, the operation has come to the same world before the call, fails as the call does, and
goes on with the same steps after it. -/
def AttachesOnce {α : Type} (x : Attacher → Op LoadError α) (w : World) (call : AttachCall) :
    Prop :=
  ∃ (h : Held) (u : World) (report : LoadError → World → World) (rest : Op LoadError α),
    ∀ f, (x f).runIn w =
      (((f h call.owner call.property call.object call.value).mapError .type).onError report >>=
        fun _ => rest).runIn u

namespace Op

variable {ε α β : Type}

theorem map_runIn_eq_ok {f : α → β} {x : Op ε α} {w v : World} {b : β} :
    (f <$> x).runIn w = (.ok b, v) ↔ ∃ a, x.runIn w = (.ok a, v) ∧ f a = b := by
  rw [map_eq_pure_bind, bind_runIn_eq_ok]
  constructor
  · rintro ⟨a, u, ha, h⟩
    cases h
    exact ⟨a, ha, rfl⟩
  · rintro ⟨a, ha, rfl⟩
    exact ⟨a, v, ha, rfl⟩

theorem ext_runIn {x y : Op ε α} (h : ∀ w, x.runIn w = y.runIn w) : x = y := funext h

/-- A last step for failures of a sequence is one for both its parts. -/
theorem onError_bind (x : Op ε α) (k : α → Op ε β) (r : ε → World → World) :
    (x >>= k).onError r = x.onError r >>= fun a => (k a).onError r := by
  refine ext_runIn fun w => ?_
  rw [onError_runIn, bind_runIn, bind_runIn, onError_runIn]
  rcases x.runIn w with ⟨e | a, u⟩
  · rfl
  · exact (onError_runIn _ _ _).symm

theorem onError_onError (x : Op ε α) (r r' : ε → World → World) :
    (x.onError r).onError r' = x.onError fun e w => r' e (r e w) := by
  refine ext_runIn fun w => ?_
  rw [onError_runIn, onError_runIn, onError_runIn]
  rcases x.runIn w with ⟨e | a, u⟩ <;> rfl

theorem onError_nothing (x : Op ε α) : x.onError (fun _ w => w) = x := by
  refine ext_runIn fun w => ?_
  rw [onError_runIn]
  rcases x.runIn w with ⟨e | a, u⟩ <;> rfl

end Op

namespace AttachesOnce

variable {α β : Type} {x y : Attacher → Op LoadError α} {w u : World} {call : AttachCall}

/-- The call itself. -/
theorem of_call (h : Held) (w : World) (call : AttachCall) :
    AttachesOnce
      (fun f => (f h call.owner call.property call.object call.value).mapError LoadError.type) w
      call := by
  refine ⟨h, w, fun _ w => w, pure (), fun f => ?_⟩
  rw [Op.onError_nothing]
  exact congrArg (Op.runIn · w) (bind_pure _).symm

/-- Before the call there may be steps that do not depend on the setter. -/
theorem after (h : AttachesOnce y u call) (hx : ∀ f, (x f).runIn w = (y f).runIn u) :
    AttachesOnce x w call := by
  obtain ⟨held, v, report, rest, hy⟩ := h
  exact ⟨held, v, report, rest, fun f => (hx f).trans (hy f)⟩

/-- After the call there may be steps that do not depend on the setter. -/
theorem bind (h : AttachesOnce x w call) (k : α → Op LoadError β) :
    AttachesOnce (fun f => x f >>= k) w call := by
  obtain ⟨held, v, report, rest, hx⟩ := h
  refine ⟨held, v, report, rest >>= k, fun f => ?_⟩
  rw [← bind_assoc, Op.bind_runIn, Op.bind_runIn, hx f]

/-- Failures of the call may be reported. -/
theorem onError (h : AttachesOnce x w call) (r : LoadError → World → World) :
    AttachesOnce (fun f => (x f).onError r) w call := by
  obtain ⟨held, v, report, rest, hx⟩ := h
  refine ⟨held, v, fun e w => r e (report e w), rest.onError r, fun f => ?_⟩
  rw [← Op.onError_onError, ← Op.onError_bind, Op.onError_runIn, hx f, Op.onError_runIn]

/-- No other call is made: what a setter does for others makes no difference. -/
theorem unique (h : AttachesOnce x w call) {call' : AttachCall} (h' : AttachesOnce x w call') :
    call = call' := by
  classical
  by_contra other
  obtain ⟨held, u, report, rest, hx⟩ := h
  obtain ⟨held', u', report', rest', hx'⟩ := h'
  -- a setter that fails for the first call only, in a way that is ours to choose
  let f (e : FactoryError) : Attacher := fun _ owner property o v =>
    if AttachCall.mk owner property o v = call then throw e else pure ()
  have fails (e : FactoryError) : ((x (f e)).runIn w).1 = .error (.type e) := by
    have refused : f e held call.owner call.property call.object call.value = throw e := if_pos rfl
    rw [hx, refused]
    rfl
  have same (e : FactoryError) : (x (f e)).runIn w = rest'.runIn u' := by
    have accepted : f e held' call'.owner call'.property call'.object call'.value = pure () :=
      if_neg (Ne.symm other)
    rw [hx', accepted]
    rfl
  have clash : Except.error (α := α) (LoadError.type (.unknownType "")) =
      .error (.type (.unknownAttached "" "")) := by
    rw [← fails, ← fails, same, same]
  cases clash

end AttachesOnce

end Bxml
