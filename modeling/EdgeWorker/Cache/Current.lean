import EdgeWorker.Cache.Manifest
import EdgeWorker.Fetch.Draft
import EdgeWorker.Host
import EdgeWorker.Scope

/-!
The generation of a cache that a worker uses: filling it, dropping all others, and looking up what
it holds.
-/

namespace EdgeWorker.Cache

open EdgeWorker.Host EdgeWorker.Json

/-- The current generation: its name, and the scope of its paths. -/
structure Current where
  scope : Scope
  generation : String
  deriving DecidableEq

/-- The address under which a generation is marked as complete. It has a scheme of its own, so that
only a text that is this address leads to it. -/
def readyMarker : String := "hx:ready"

namespace Current

def resolve (c : Current) (path : String) : Except Error Url :=
  match c.scope.resolve path with
  | .ok url => .ok url
  | .error e => .error (.path path e)

/-- The entry of a resource, fetched anew, with the address it is kept under. -/
def fetchEntry (c : Current) (path : String) : Attempt Error (String × Entry) := do
  let url ← settled (c.resolve path)
  let failed := fun e => Error.fetch url.text e
  let request ← settled ((Fetch.getRequest url).mapError failed)
  let response ← withError failed (fetch request)
  if !response.isSuccess then throw (.status url.text response.status)
  return (cacheKey url, Entry.ofResponse response (← now))

def report (c : Current) (message count : String) (n : Nat) : Job Unit :=
  log ⟨.info, Log.cacheTarget, message, [("generation", .string c.generation), (count, Value.nat n)]⟩

/-- Fills the generation. Nothing is stored unless every resource was fetched with success. -/
def install (c : Current) (m : Manifest) : Attempt Error Nat := do
  store (.openGeneration c.generation)
  let entries ← all (m.paths.map c.fetchEntry)
  store (.putAll c.generation entries)
  c.report "cache generation installed" "resources" entries.length
  return entries.length

/-- Deletes all other generations; their names. -/
def activate (c : Current) : Attempt Error (List String) := do
  let stale := (← store .generations).filter (· ≠ c.generation)
  let _ ← all (stale.map fun name => store (.deleteGeneration name))
  c.report "cache generation activated" "pruned" stale.length
  return stale

def responseOf? (c : Current) (url : Url) : Attempt Error (Option Http.Response) := do
  match ← store (.get c.generation (cacheKey url)) with
  | some entry => return some (← settled entry.response)
  | none => return none

def entryOf? (c : Current) (path : String) : Attempt Error (Option Entry) := do
  let url ← settled (c.resolve path)
  store (.get c.generation (cacheKey url))

/-- Fetches one resource and stores it. -/
def add (c : Current) (path : String) : Attempt Error Unit := do
  let (url, entry) ← c.fetchEntry path
  store (.put c.generation url entry)

def isReady (c : Current) : Attempt Error Bool := do
  return (← store (.get c.generation readyMarker)).isSome

def markReady (c : Current) : Attempt Error Unit := do
  store (.put c.generation readyMarker (Entry.of 204 [] (← now)))

end Current
end EdgeWorker.Cache
