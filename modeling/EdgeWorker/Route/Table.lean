import EdgeWorker.Cache.Manifest
import EdgeWorker.Config
import EdgeWorker.Route.Manifest

/-!
The table of routes below a scope, and the list of what has to be cached for them.
-/

namespace EdgeWorker.Route

/-- What a path is answered with. -/
structure Descriptor where
  templatePath : Option String
  rpcPath : Option String
  rpcFunction : Option String
  deriving DecidableEq, Repr

/-- The path and the function of a call; both have to be there. -/
def Descriptor.binding? (d : Descriptor) : Option (String × String) :=
  match d.rpcPath, d.rpcFunction with
  | some path, some function => some (path, function)
  | _, _ => none

structure Table where
  scope : Scope
  templateDir : String
  routes : Keyed String Descriptor
  manifest : Cache.Manifest
  deriving DecidableEq

namespace Table

def empty (scope : Scope) (templateDir : String) (manifest : Cache.Manifest) : Table :=
  ⟨scope, templateDir, Keyed.empty, manifest⟩

/-- The table of a configuration, without routes. -/
def ofConfig (c : Config) : Except ConfigError Table :=
  match c.scope with
  | .ok scope => .ok (empty scope c.templateDir (Cache.Manifest.ofPaths c.staticAssets))
  | .error e => .error e

def templatePath (t : Table) (file : String) : String :=
  String.ofList (Text.dropEnd (· == '/') t.templateDir.toList) ++ "/" ++ file

/-- What a declared route is answered with. -/
def describe (t : Table) (spec : Spec) : Descriptor :=
  ⟨spec.template.map t.templatePath, spec.rpcPath, spec.rpcFunction⟩

/-- Adds a route, in place of one with the same path. Its template has to be cached. -/
def add (t : Table) (declared : String) (spec : Spec) : Table :=
  let d := t.describe spec
  { t with
    routes := t.routes.put (t.scope.routeKey declared) d
    manifest := t.manifest.insertAll d.templatePath.toList }

def addAll (t : Table) (m : Manifest) : Table :=
  m.specs.foldl (fun t (declared, spec) => t.add declared spec) t

/-- The paths of the templates of a manifest, each once. -/
def templatesOf (t : Table) (m : Manifest) : List String :=
  (Cache.Manifest.ofPaths (m.specs.filterMap fun (_, spec) => (t.describe spec).templatePath)).paths

/-- What a path is answered with, if it has a route. -/
def lookup (t : Table) (path : String) : Option Descriptor := t.routes.get? path

/-- The routes in the order of their paths. -/
def sorted (t : Table) : List (String × Descriptor) :=
  t.routes.entries.mergeSort fun a b => a.1 ≤ b.1

end Table
end EdgeWorker.Route
