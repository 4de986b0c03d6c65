import Bxml.Propagation

/-!
# Calling listeners

The listeners of a list are asked one after the other; the first one that fails ends the call. An
adapter answers with functions of a script engine, an event script by evaluating its text against a
copy of the ids of its document. Where a script has no answer, the interface has a default.
-/

namespace Bxml

/-- Why a listener gave no answer. -/
structure ListenerError where
  method : String
  text : String
deriving DecidableEq, Repr

/-- The wording of a listener error. -/
def ListenerError.message (e : ListenerError) : String :=
  s!"Listener method '{e.method}' failed: {e.text}"

/-- A script's answer; null leaves the answer to the interface. -/
def Interface.answer (i : Interface) (method : String) (v : Value) : Value :=
  if v.isNull then i.defaultResult method else v

/-- The id under which an event script finds the arguments of the call. -/
def argumentsId : String := "arguments"

namespace Host

/-- Calls a method of an adapter. -/
def callAdapter (host : Host) (h : Held) (a : Adapter) (method : String) (args : List Value) :
    Op ListenerError Value := do
  let e := host.engine a.engine
  let failure (x : ScriptError) : ListenerError := ⟨method, x.message⟩
  match a.functions.get? method with
  | some f =>
    let v ← (e.invoke f h args).mapError failure
    return a.interface.answer method v
  | none =>
    if a.fallback && (a.interface.find? method).isSome then
      match ← (e.invoke method h args).attempt with
      | .ok v => return a.interface.answer method v
      | .error (.noSuchFunction _) => return a.interface.defaultResult method
      | .error x => throw (failure x)
    else return a.interface.defaultResult method

/-- The ids that an event script sees: those of its document, if it is still there, followed by the
list of the arguments. -/
def scriptIds (h : Held) (e : EventScript) (args : List Value) : Op ListenerError TableId := do
  let ids ← Op.read fun w =>
    match e.table with
    | some t => if h.tables.contains t then w.table t else .empty
    | none => .empty
  let list ← Op.make fun w => w.alloc (.ofItems args)
  if ids.contains argumentsId then
    Op.log .warn (s!"\"{argumentsId}\" is a document id; the {e.interface.name}.{e.event} script " ++
      "sees that value instead")
    Op.make (·.allocTable ids)
  else Op.make (·.allocTable (ids.insert argumentsId (.object list)))

/-- Calls a method of an event script. -/
def callScript (host : Host) (h : Held) (e : EventScript) (method : String) (args : List Value) :
    Op ListenerError Value := do
  if method != e.event then return e.interface.defaultResult method
  let engine := host.engine e.engine
  let t ← scriptIds h e args
  match ← (engine.eval ((h.keep args).keepTable t) e.script t).attempt with
  | .ok v => return e.interface.answer method v
  | .error x =>
    Op.log .error
      s!"{e.interface.name}.{e.event} script failed ({engine.language}): {x.message}"
    Op.log .debug e.script
    return e.interface.defaultResult method

/-- Calls a method of a listener. -/
def call (host : Host) (h : Held) (method : String) (args : List Value) :
    Listener → Op ListenerError Value
  | .constant v => pure v
  | .failing text => throw ⟨method, text⟩
  | .adapter a => host.callAdapter h a method args
  | .script e => host.callScript h e method args

/-- Asks some listeners one after the other and gives their answers in order. Once a listener fails,
nobody else is asked. -/
def askAll {L : Type} (ask : L → Op ListenerError Value) (ls : List L) :
    Op ListenerError (List Value) :=
  ls.mapM ask

/-- The votes among some answers. -/
def votes (answers : List Value) : List Vote := answers.filterMap Value.vote?

/-- Asks some listeners and tallies the votes among their answers. -/
def poll {L : Type} (ask : L → Op ListenerError Value) (ls : List L) : Op ListenerError Vote := do
  return Vote.tallyAll (votes (← askAll ask ls))

/-- Calls a method of every listener and gives their answers in order. -/
def fire (host : Host) (h : Held) (l : ListenerList) (method : String) (args : List Value) :
    Op ListenerError (List Value) :=
  askAll (host.call (h.keep args) method args) l.listeners

/-- Calls a method of every listener and tallies the votes among their answers. -/
def vote (host : Host) (h : Held) (l : ListenerList) (method : String) (args : List Value) :
    Op ListenerError Vote :=
  poll (host.call (h.keep args) method args) l.listeners

end Host

end Bxml
