import EdgeWorker.Json.Record

/-!
The list of paths that a generation of the cache is filled with.
-/

namespace EdgeWorker.Cache

open EdgeWorker.Json

/-- The paths to be stored, in the order in which they were added. -/
structure Manifest where
  paths : List String
  deriving DecidableEq, Repr

namespace Manifest

def empty : Manifest := ⟨[]⟩

def contains (m : Manifest) (path : String) : Bool := m.paths.contains path

/-- Adds a path at the end unless it is listed; tells whether it was added. -/
def insert (m : Manifest) (path : String) : Bool × Manifest :=
  if m.contains path then (false, m) else (true, ⟨m.paths ++ [path]⟩)

def insertAll (m : Manifest) (paths : List String) : Manifest :=
  paths.foldl (fun m path => (m.insert path).2) m

def ofPaths (paths : List String) : Manifest := empty.insertAll paths

/-- Reads a manifest: an array of strings, which is taken as it is. -/
def reader : Reader Manifest := fun depth t => (Reader.list Reader.string depth t).map Manifest.mk

def text (m : Manifest) : String := String.ofList (brackets (m.paths.map quote))

end Manifest
end EdgeWorker.Cache
