import Bxml.Inspect.Basic

/-!
# Listeners in the log

How the log shows adapters and event scripts; `language` is that of their engine.
-/

namespace Bxml

/-- An adapter as the log shows it. -/
def Adapter.inspect (a : Adapter) (language : String) : String :=
  Inspect.record "ScriptListenerAdapter" [
    ("interface", Text.quoted a.interface.name),
    ("language", Text.quoted language),
    ("functions", Inspect.map (a.functions.map Text.quoted).toList)]

/-- An event script as the log shows it. -/
def EventScript.inspect (e : EventScript) (language : String) : String :=
  Inspect.record "ScriptEventListener" [
    ("interface", Text.quoted e.interface.name),
    ("event", Text.quoted e.event),
    ("language", Text.quoted language)]

/-- A list of listeners as it is shown to people who look for faults. -/
def ListenerList.inspect (l : ListenerList) : String :=
  Inspect.record "ListenerList" [
    ("interface", Text.quoted l.interface.name),
    ("listeners", toString l.listeners.length)]

end Bxml
