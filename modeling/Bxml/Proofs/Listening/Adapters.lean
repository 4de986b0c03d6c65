import Bxml.Listening

/-!
# Which function an adapter calls

An adapter calls the function that a method is mapped to, or else, if it falls back on the script,
the function of the method's own name.  What the function gives is the result, and its failure is a
failure of the method.  There is one exception: whether the engine has a function of the method's
name is read off its failure, so that a function which fails because it misses another one is taken
to be missing itself, `Host.dispatches_iff`.

`Dispatches` says what a call should do: one call of the right function and its result, or the
default result if there is no function.  `FailsAsMissing` is the exception, and `dispatches_iff`
says that there is no other.  There is one lemma for each way in which a call may go
(`dispatches_of_mapped`, `dispatches_of_unclaimed`, `dispatches_of_unmapped`).  `failure_unheard` is
a script in which the exception occurs.
-/

namespace Bxml

/-! ## The rule -/

namespace Adapter

/-- The name of the function that an adapter calls for a method. -/
def function? (a : Adapter) (e : Engine) (method : String) : Option String :=
  match a.functions.get? method with
  | some name => some name
  | none =>
    if a.fallback && (a.interface.find? method).isSome && e.functions.contains method then
      some method
    else none

/-- The result of a method whose function gives `r`. -/
def result (a : Adapter) (method : String) (r : Except ScriptError Value) :
    Except ListenerError Value :=
  match r with
  | .ok v => .ok (if v.isNull then a.interface.defaultResult method else v)
  | .error x => .error ⟨method, x.message⟩

end Adapter

theorem Engine.invoke_of_some {e : Engine} {name : String} {f : ScriptFunction}
    (hf : e.functions.get? name = some f) (h : Held) (args : List Value) :
    e.invoke name h args = f (h.keep args) args := by
  simp [invoke, hf]

theorem Engine.invoke_of_none {e : Engine} {name : String} (hf : e.functions.get? name = none)
    (h : Held) (args : List Value) : e.invoke name h args = throw (.noSuchFunction name) := by
  simp [invoke, hf]

namespace Host

variable (host : Host) (h : Held) (a : Adapter) (method : String) (args : List Value) (w : World)

/-- Whether a call of an adapter calls the function that it should, once, and has its result. -/
structure Dispatches : Prop where
  /-- Nothing happens but one call of the function. -/
  called {name : String} {f : ScriptFunction} :
    a.function? (host.engine a.engine) method = some name →
    (host.engine a.engine).functions.get? name = some f →
    (host.callAdapter h a method args).runIn w =
      Prod.map (a.result method) id ((f (h.keep args) args).runIn w)
  /-- A method that is mapped to a function which does not exist fails. -/
  missing {name : String} : a.functions.get? method = some name →
    (host.engine a.engine).functions.get? name = none →
    (host.callAdapter h a method args).runIn w =
      (.error ⟨method, (ScriptError.noSuchFunction name).message⟩, w)
  /-- Nothing happens where no function is called. -/
  otherwise : a.function? (host.engine a.engine) method = none →
    (host.callAdapter h a method args).runIn w = (.ok (a.interface.defaultResult method), w)

/-- Whether an adapter calls the function of a method's own name, and this fails as if there were no
such function and leaves the world `v`. -/
def FailsAsMissing (v : World) : Prop :=
  a.functions.get? method = none ∧ a.function? (host.engine a.engine) method = some method ∧
    ∃ f name, (host.engine a.engine).functions.get? method = some f ∧
      (f (h.keep args) args).runIn w = (.error (.noSuchFunction name), v)

/-! ## The three routes -/

variable {host h a method args w}

theorem callAdapter_of_mapped {name : String} (hm : a.functions.get? method = some name) :
    (host.callAdapter h a method args).runIn w =
      Prod.map (a.result method) id (((host.engine a.engine).invoke name h args).runIn w) := by
  simp only [callAdapter, hm, Op.bind_runIn, Op.mapError_runIn]
  rcases ((host.engine a.engine).invoke name h args).runIn w with ⟨_ | _, _⟩ <;> rfl

theorem callAdapter_of_unmapped (hm : a.functions.get? method = none)
    (hf : (a.fallback && (a.interface.find? method).isSome) = true) :
    (host.callAdapter h a method args).runIn w =
      match ((host.engine a.engine).invoke method h args).runIn w with
      | (.error (.noSuchFunction _), v) => (.ok (a.interface.defaultResult method), v)
      | (r, v) => (a.result method r, v) := by
  simp only [callAdapter, hm, hf, if_true, Op.bind_runIn, Op.attempt_runIn]
  rcases ((host.engine a.engine).invoke method h args).runIn w with ⟨x | _, _⟩
  · cases x <;> rfl
  · rfl

theorem callAdapter_of_unclaimed (hm : a.functions.get? method = none)
    (hf : (a.fallback && (a.interface.find? method).isSome) = false) :
    (host.callAdapter h a method args).runIn w = (.ok (a.interface.defaultResult method), w) := by
  simp [callAdapter, hm, hf]

/-! ## What a call comes to -/

theorem dispatches_of_mapped {name : String} (hm : a.functions.get? method = some name) :
    host.Dispatches h a method args w := by
  have hf : a.function? (host.engine a.engine) method = some name := by
    simp [Adapter.function?, hm]
  constructor
  case called =>
    intro name' f hf' known
    obtain rfl : name = name' := Option.some.inj (hf.symm.trans hf')
    rw [callAdapter_of_mapped hm, Engine.invoke_of_some known]
  case missing =>
    intro name' hm' unknown
    obtain rfl : name = name' := Option.some.inj (hm.symm.trans hm')
    rw [callAdapter_of_mapped hm, Engine.invoke_of_none unknown]
    rfl
  case otherwise =>
    intro hf'
    cases hf.symm.trans hf'

theorem dispatches_of_unclaimed (hm : a.functions.get? method = none)
    (hf : (a.fallback && (a.interface.find? method).isSome) = false) :
    host.Dispatches h a method args w := by
  constructor
  case called =>
    intro name f hf'
    simp [Adapter.function?, hm, hf] at hf'
  case missing =>
    intro name hm'
    cases hm.symm.trans hm'
  case otherwise => exact fun _ => callAdapter_of_unclaimed hm hf

theorem dispatches_of_unmapped (hm : a.functions.get? method = none)
    (hf : (a.fallback && (a.interface.find? method).isSome) = true)
    (heard : ∀ v, ¬ host.FailsAsMissing h a method args w v) :
    host.Dispatches h a method args w := by
  constructor
  case called =>
    intro name f hf' known
    obtain ⟨-, rfl⟩ : _ ∧ method = name := by simpa [Adapter.function?, hm, hf] using hf'
    rw [callAdapter_of_unmapped hm hf, Engine.invoke_of_some known]
    rcases run : (f (h.keep args) args).runIn w with ⟨x | v, u⟩
    · cases x with
      | noSuchFunction name => exact absurd ⟨hm, hf', f, name, known, run⟩ (heard u)
      | _ => rfl
    · rfl
  case missing =>
    intro name hm'
    cases hm.symm.trans hm'
  case otherwise =>
    intro hf'
    have unknown : (host.engine a.engine).functions.get? method = none := by
      rw [← Option.isNone_iff_eq_none, ← Option.not_isSome, Entries.isSome_get?]
      simpa [Adapter.function?, hm, hf] using hf'
    rw [callAdapter_of_unmapped hm hf, Engine.invoke_of_none unknown]
    rfl

/-- A function that fails as if it were missing is not heard of. -/
theorem FailsAsMissing.callAdapter {v : World} (failed : host.FailsAsMissing h a method args w v) :
    (host.callAdapter h a method args).runIn w = (.ok (a.interface.defaultResult method), v) := by
  obtain ⟨hm, hf, f, name, known, run⟩ := failed
  have claimed : (a.fallback && (a.interface.find? method).isSome) = true := by
    cases hc : a.fallback && (a.interface.find? method).isSome with
    | true => rfl
    | false => simp [Adapter.function?, hm, hc] at hf
  rw [callAdapter_of_unmapped hm claimed, Engine.invoke_of_some known, run]

/-- A call of an adapter is dispatched as it should be, unless the function of the method's own name
fails as if it were missing; then the method has its default result. -/
theorem dispatches_iff (host : Host) (h : Held) (a : Adapter) (method : String) (args : List Value)
    (w : World) :
    (host.Dispatches h a method args w ↔ ∀ v, ¬ host.FailsAsMissing h a method args w v) ∧
      ∀ v, host.FailsAsMissing h a method args w v →
        (host.callAdapter h a method args).runIn w =
          (.ok (a.interface.defaultResult method), v) := by
  refine ⟨⟨fun dispatches v failed => ?_, fun heard => ?_⟩, fun v failed => failed.callAdapter⟩
  · have result := failed.callAdapter
    obtain ⟨-, hf, f, name, known, run⟩ := failed
    rw [dispatches.called hf known, run] at result
    cases result
  · cases hm : a.functions.get? method with
    | some name => exact dispatches_of_mapped hm
    | none =>
      cases hf : a.fallback && (a.interface.find? method).isSome with
      | false => exact dispatches_of_unclaimed hm hf
      | true => exact dispatches_of_unmapped hm hf heard

/-! ## A bell that misses its clapper -/

/-- A host whose only function calls another one that does not exist. -/
def clapperless : Host :=
  let ring : ScriptFunction := fun _ _ => throw (.noSuchFunction "clapper")
  { plain "native" with engine := fun _ => ⟨"native", .ofList [("ring", ring)], none⟩ }

/-- An adapter that falls back on the functions of the script. -/
def bellAdapter : Adapter := ⟨⟨"Bell", [⟨"ring", .vote⟩]⟩, ⟨0⟩, .empty, true⟩

/-- The function of a method's own name fails, and the method has its default result all the same; if
the method is mapped to that function, it fails. -/
theorem failure_unheard :
    let mapped : Adapter := { bellAdapter with functions := .ofList [("ring", "ring")] }
    ¬ clapperless.Dispatches .nothing bellAdapter "ring" [] .empty ∧
      ((clapperless.callAdapter .nothing bellAdapter "ring" []).runIn .empty).1.toOption =
        some (.vote .approve) ∧
      ((clapperless.callAdapter .nothing mapped "ring" []).runIn .empty).1.toOption = none := by
  refine ⟨fun dispatches => ?_, by decide, by decide⟩
  have selected : bellAdapter.function? (clapperless.engine bellAdapter.engine) "ring" =
      some "ring" := by decide
  have known : (clapperless.engine bellAdapter.engine).functions.get? "ring" =
      some fun _ _ => throw (.noSuchFunction "clapper") := rfl
  have called := dispatches.called selected known
  have results := congrArg (fun r => r.1.toOption) called
  revert results
  decide

end Host

end Bxml
