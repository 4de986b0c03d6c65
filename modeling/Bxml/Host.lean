import Bxml.Script.Engine

/-!
# Hosts

A host provides what lies outside of markup: the script engines, and what is run when a document
that consists of a certain object is complete.
-/

namespace Bxml

/-- What is run on the root of a complete document: it is told what is held, the root, the ids of
the document and its location. -/
abbrev Hook := Held → ObjectId → TableId → Option Url → Op PropertyError Unit

/-- A provider of engines and hooks. -/
structure Host where
  engine : EngineId → Engine
  hook : HookId → Hook
  /-- How often a change may be passed on because of another before it is given up. -/
  nesting : Nat

/-- The host of documents that are only looked at: no engine evaluates anything. -/
def Host.plain (language : String) : Host := ⟨fun _ => .bare language, fun _ _ _ _ _ => pure (), 10000⟩

end Bxml
