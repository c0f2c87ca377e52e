import EdgeWorker.Cache.Current
import EdgeWorker.Template.Load
import EdgeWorker.Template.Render

/-!
Pages from templates. An engine keeps what it has loaded; templates come from the cache first,
partials always from the network.
-/

namespace EdgeWorker.Template

open EdgeWorker.Host EdgeWorker.Json

structure Engine where
  cache : Cache.Current
  partialDir : String
  library : Library

namespace Engine

def of (cache : Cache.Current) (partialDir : String) : Engine := ⟨cache, partialDir, .empty⟩

def partialPath (e : Engine) (name : String) : String :=
  String.ofList (Text.dropEnd (· == '/') e.partialDir.toList) ++ "/" ++ name ++ ".html"

/-- A result, or that the source at a path cannot be had. -/
def orFault {ε α : Type} (path : String) (fault : ε → SourceFault) (result : Except ε α) :
    Attempt Error α :=
  settled (result.mapError fun e => .source path (fault e))

/-- The source that the cache has for a path. -/
def cached (e : Engine) (path : String) : Attempt Error (Option String) := do
  let entry ← withError (fun x => Error.source path (.cache x)) (e.cache.entryOf? path)
  match entry with
  | none => return none
  | some entry => return some (← orFault path .cache entry.text)

/-- The source that the network has for a path. -/
def fetched (e : Engine) (path : String) : Attempt Error String := do
  let url ← orFault path .address (e.cache.scope.resolve path)
  let request ← orFault path .fetch (Fetch.getRequest url)
  let response ← withError (fun x => Error.source path (.fetch x)) (fetch request)
  if !response.isSuccess then throw (.status path response.status)
  orFault path .fetch response.text

/-- Writes log records of what happened. -/
def report (events : List Event) : Job Unit :=
  events.forM fun
    | .partialRegistered name =>
      log ⟨.debug, Log.templateTarget, "partial registered", [("partial", .string name)]⟩
    | .templateCompiled path =>
      log ⟨.debug, Log.templateTarget, "template compiled", [("template", .string path)]⟩

/-- One step of a load: the answer to its question, and what follows from it. -/
def next (e : Engine) : Load → Job (Library × List Event × Load)
  | .atCache path => do return Load.afterCache e.library path (← (e.cached path).run)
  | .atNetwork path => do return Load.afterSource e.library path (← (e.fetched path).run)
  | .atPart path source name frames => do
    let text ← (e.fetched (e.partialPath name)).run
    return Load.afterPart e.library path source name frames text
  | .done outcome => return (e.library, [], .done outcome)

/-- Carries a load on to its end, in at most so many steps. A load has no bound of its own: as long
as its partials refer to new ones it goes on. One that needs more steps ends in `endless`, which
stands for no end at all. -/
def carryOn (path : String) : Nat → Engine → Load → Job (Except Error Unit × Engine)
  | _, e, .done outcome => .done (outcome, e)
  | 0, e, _ => .done (.error (.endless path), e)
  | steps + 1, e, load => do
    let (library, events, load) ← e.next load
    report events
    carryOn path steps { e with library } load

/-- The steps that every load is given: more than there is ever something to load for. -/
def maxSteps : Nat := 1000000

/-- Loads the template of a path in at most so many steps. What was loaded is kept, whatever the
outcome. -/
def loadWithin (e : Engine) (steps : Nat) (path : String) : Job (Except Error Unit × Engine) :=
  carryOn path steps e (Load.begin e.library path)

def load (e : Engine) (path : String) : Job (Except Error Unit × Engine) := e.loadWithin maxSteps path

def page (e : Engine) (path : String) (data : Value) : Except Error String :=
  match e.library.registry.get? path with
  | none => .error (.render path (.unknownTemplate path))
  | some t =>
    match Template.render ⟨data, e.library.registry.get?⟩ path t with
    | .ok page => .ok page
    | .error fault => .error (.render path fault)

/-- Loads the template of a path in at most so many steps, and makes its page. -/
def renderWithin (e : Engine) (steps : Nat) (path : String) (data : Value) :
    Job (Except Error String × Engine) := do
  let (outcome, e) ← e.loadWithin steps path
  match outcome with
  | .error x => return (.error x, e)
  | .ok () => return (e.page path data, e)

def render (e : Engine) (path : String) (data : Value) : Job (Except Error String × Engine) :=
  e.renderWithin maxSteps path data

end Engine
end EdgeWorker.Template
