import EdgeWorker.Cache.Current
import EdgeWorker.Route.Table

/-!
Filling a table of routes from a manifest on the network. A manifest that cannot be had leaves the
table as it was. As long as the generation of the cache is not complete, the templates that the
manifest names are put into it.
-/

namespace EdgeWorker.Route

open EdgeWorker.Host EdgeWorker.Json

/-- Why a manifest cannot be had. -/
inductive LoadError where
  /-- Its location is no address. -/
  | location (path : String) (reason : Url.UrlError)
  | fetch (url : String) (reason : Fetch.Error)
  /-- The answer is not that of a success. -/
  | status (url : String) (status : Http.Status)
  /-- The answer is no manifest. -/
  | malformed
  deriving DecidableEq

def LoadError.message : LoadError → String
  | .location path reason => s!"invalid manifest location {path}: {reason.message}"
  | .fetch url reason => s!"failed to fetch route manifest {url}: {reason.message}"
  | .status url s => s!"route manifest {url} answered with status {s.code}"
  | .malformed => "invalid route manifest"

/-- The manifest at a location below a scope. -/
def fetchManifest (s : Scope) (source : String) : Attempt LoadError Manifest := do
  let url ← settled ((s.resolve source).mapError (.location source))
  let failed := LoadError.fetch url.text
  let request ← settled ((Fetch.getRequest url).mapError failed)
  let response ← withError failed (fetch request)
  if !response.isSuccess then throw (.status url.text response.status)
  match Manifest.ofBytes? response.body with
  | some m => return m
  | none => throw .malformed

/-- Fetches one template into the cache. A failure is only reported. -/
def primeOne (c : Cache.Current) (path : String) : Job Unit := do
  match ← (c.add path).run with
  | .ok () => return
  | .error e =>
    log ⟨.warn, Log.routerTarget, "failed to prime template",
      [("template", .string path), Log.errorField e.message]⟩

def prime (c : Cache.Current) (paths : List String) : Job Unit := paths.forM (primeOne c)

namespace Table

/-- Primes the cache with templates, unless its generation is complete. -/
def primeUnlessReady (c : Cache.Current) (source : String) (templates : List String) : Job Unit := do
  match ← c.isReady.run with
  | .ok true =>
    log ⟨.debug, Log.routerTarget, "cache generation ready, templates not primed",
      [("source", .string source)]⟩
  | _ => prime c templates

/-- The table with the routes of a manifest at a location, and the number of its declarations. -/
def load (t : Table) (c : Cache.Current) (source : String) : Attempt LoadError (Nat × Table) := do
  let m ← fetchManifest t.scope source
  let templates := t.templatesOf m
  log ⟨.info, Log.routerTarget, "routes loaded",
    [("source", .string source), ("routes", Value.nat m.size), ("templates", Value.nat templates.length)]⟩
  primeUnlessReady c source templates
  return (m.size, t.addAll m)

/-- The same, but a failure is reported, and the table stays as it was. -/
def loadOrLog (t : Table) (c : Cache.Current) (source : String) : Job (Nat × Table) := do
  match ← (t.load c source).run with
  | .ok loaded => return loaded
  | .error e =>
    log ⟨.error, Log.routerTarget, "failed to load routes",
      [("source", .string source), Log.errorField e.message]⟩
    return (0, t)

end Table
end EdgeWorker.Route
