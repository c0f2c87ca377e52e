import EdgeWorker.Json.Record
import EdgeWorker.Keyed
import EdgeWorker.Route.Spec

/-!
Route manifests: the declared paths of an application with their routes, each in the short form or
as a record.
-/

namespace EdgeWorker.Route

open EdgeWorker.Json

/-- The declaration of a route. -/
inductive Entry where
  | compact (text : String)
  | structured (spec : Spec)
  deriving DecidableEq, Repr

namespace Entry

/-- The normalized spec of a declaration. -/
def spec : Entry → Spec
  | .compact text => Spec.ofText text
  | .structured spec => spec.normalize

end Entry

/-- The names of the parts of a spec in their order. -/
def Spec.names : List String := ["rpcFunction", "rpcPath", "template"]

/-- Reads a spec; every part may be null or missing. -/
def Spec.reader : Reader Spec := fun depth t =>
  match Fields.of? names depth t with
  | none => none
  | some fs =>
    let part := fun name => fs.defaulted name (Reader.nullable Reader.string) none
    match part "rpcFunction", part "rpcPath", part "template" with
    | some function, some path, some template => some ⟨function, path, template⟩
    | _, _, _ => none

def Spec.json (s : Spec) : List Char :=
  record [("rpcFunction", quote? s.rpcFunction), ("rpcPath", quote? s.rpcPath), ("template", quote? s.template)]

/-- Reads a declaration: a string, or else a spec. -/
def Entry.reader : Reader Entry := Reader.buffered fun depth t =>
  match t with
  | .string (some s) => some (.compact s)
  | t => (Spec.reader depth t).map .structured

def Entry.json : Entry → List Char
  | .compact text => quote text
  | .structured spec => spec.json

/-- The declarations of an application by path. -/
abbrev Manifest := Keyed String Entry

namespace Manifest

/-- The specs in the order of their paths. -/
def specs (m : Manifest) : List (String × Spec) := m.entries.map fun (path, e) => (path, e.spec)

/-- Reads a manifest. A repeated path has its last declaration in its first place. -/
def reader : Reader Manifest := fun depth t =>
  (Reader.entries Entry.reader depth t).map Keyed.ofList

def ofBytes? (bytes : Bytes) : Option Manifest := reader.ofBytes? bytes

def text (m : Manifest) : String :=
  String.ofList (record (m.entries.map fun (path, e) => (path, e.json)))

end Manifest
end EdgeWorker.Route
