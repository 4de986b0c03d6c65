import Bxml.Entries
import Bxml.Resource.Basic

/-!
# Resources in memory

A store of resources that were added before, each under its absolute URL.
-/

namespace Bxml

/-- Resources under the texts of their URLs. -/
structure MemoryStore where
  files : Entries (List UInt8)

namespace MemoryStore

/-- No resources. -/
def empty : MemoryStore := ⟨.empty⟩

/-- Adds a resource, or replaces the one that is there. -/
def insert (m : MemoryStore) (u : Url) (data : List UInt8) : MemoryStore :=
  ⟨m.files.insert u.text data⟩

/-- Adds a resource under an absolute URL that has yet to be read. -/
def add (m : MemoryStore) (location : String) (data : List UInt8) :
    Except ResourceError (Url × MemoryStore) :=
  match Url.parse location with
  | .ok u => .ok (u, m.insert u data)
  | .error e => .error (.invalidFormat s!"{location}: {e.message}")

/-- How many resources there are. -/
def size (m : MemoryStore) : Nat := m.files.size

/-- Whether there are no resources. -/
def isEmpty (m : MemoryStore) : Bool := m.files.isEmpty

/-- The store as a provider. -/
def provider (m : MemoryStore) : ResourceProvider where
  name := "InMemoryResourceProvider"
  load u :=
    match m.files.get? u.text with
    | some data => .ok data
    | none => .error (.notFound u.text)
  serves u := m.files.contains u.text

end MemoryStore

end Bxml
