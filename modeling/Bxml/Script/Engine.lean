import Bxml.World.Op

/-!
# Script engines

An engine has functions that can be called by name and, perhaps, an evaluator for script text. Both
are provided from outside and may change the world.
-/

namespace Bxml

/-- Why a script or a function of a script gave no value. -/
inductive ScriptError
  | failed (text : String)
  | noSuchFunction (name : String)
  | unsupported (language : String)
deriving DecidableEq, Repr

/-- The wording of a script error. -/
def ScriptError.message : ScriptError → String
  | .failed text => s!"Script evaluation failed: {text}"
  | .noSuchFunction name => s!"No such function: {name}"
  | .unsupported language => s!"Engine '{language}' cannot evaluate script text"

/-- A function of a script engine. It is told what is held while it runs. -/
abbrev ScriptFunction := Held → List Value → Op ScriptError Value

/-- What runs script text. The ids of the given table are its global names. -/
abbrev Evaluator := Held → String → TableId → Op ScriptError Value

/-- A script engine. -/
structure Engine where
  language : String
  functions : Entries ScriptFunction
  evaluator : Option Evaluator

namespace Engine

/-- An engine without functions that evaluates nothing. -/
def bare (language : String) : Engine := ⟨language, .empty, none⟩

instance : Inhabited Engine := ⟨bare ""⟩

/-- Calls a function by its name. -/
def invoke (e : Engine) (name : String) (h : Held) (args : List Value) : Op ScriptError Value :=
  match e.functions.get? name with
  | some f => f (h.keep args) args
  | none => throw (.noSuchFunction name)

/-- Evaluates script text. -/
def eval (e : Engine) (h : Held) (source : String) (t : TableId) : Op ScriptError Value :=
  match e.evaluator with
  | some f => f h source t
  | none => throw (.unsupported e.language)

end Engine

end Bxml
