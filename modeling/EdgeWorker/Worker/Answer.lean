import EdgeWorker.Log.Lines
import EdgeWorker.Params
import EdgeWorker.Worker.Lifecycle

/-!
Answering requests. A request with the flag goes by the routes: it is answered with the page of its
route's template, filled with the result of the call that the route is bound to. Any other request
is answered from the cache, or else by the network. A worker that is not active forwards everything.
-/

namespace EdgeWorker.Worker

open EdgeWorker.Host EdgeWorker.Http EdgeWorker.Json

/-- Whether a request goes by the routes. -/
def isRouted (w : Worker) (r : Request) : Bool := r.headers.text? w.config.flagHeader == some "true"

/-! ### Requests that go by the routes -/

/-- What came of a request: the response, and when the call was answered if one was made. -/
structure Handled where
  response : Except Error Response
  called : Option Nat

/-- Calls what a route is bound to with the parameters of a request. -/
def callFor (w : Worker) (r : Request) (binding : String × String) : Attempt Error Value := do
  let params ← settled ((Params.gather r w.config.headerPrefix).mapError fun e => .badRequest e.message)
  withError .rpc (Rpc.invoke w.scope binding.1 binding.2 params)

/-- The page of a template, which is loaded in at most so many steps; the response is empty where there
is no template. -/
def pageFor (w : Worker) (steps : Nat) (d : Route.Descriptor) (data : Value) :
    Job (Except Error Response × Worker) := do
  match d.templatePath with
  | none => return (.ok emptyResponse, w)
  | some path =>
    let (page, engine) ← w.engine.renderWithin steps path data
    return ((page.map pageResponse).mapError .template, { w with engine })

/-- Handles a request by its route. A call whose result is null leaves nothing to be shown. -/
def route (w : Worker) (steps : Nat) (r : Request) : Job (Handled × Worker) := do
  match w.table.lookup r.target.path with
  | none => return (⟨.error (.routeNotFound r.target.path), none⟩, w)
  | some d =>
    match d.binding? with
    | none =>
      let (response, w) ← w.pageFor steps d .null
      return (⟨response, none⟩, w)
    | some binding =>
      match ← (w.callFor r binding).run with
      | .error e => return (⟨.error e, none⟩, w)
      | .ok data =>
        let called ← clock
        if data.isNull then return (⟨.ok emptyResponse, some called⟩, w)
        let (response, w) ← w.pageFor steps d data
        return (⟨response, some called⟩, w)

def responseFields (r : Request) (response : Response) (elapsed : Nat) (call : Option Nat) :
    List (String × Value) :=
  [("method", .string r.method.name), ("status", Value.nat response.status.code),
   Log.spanField "duration" elapsed] ++ call.toList.map (Log.spanField "rpc")

/-- Writes the line about a request that was handled, and answers it; a failure has an answer too. -/
def conclude (lines : Log.Lines) (r : Request) (begun : Nat) (handled : Handled) : Job Response := do
  match handled.response with
  | .ok response =>
    let elapsed := (← clock) - begun
    lines.write .info "routed request handled"
      (responseFields r response elapsed (handled.called.map (· - begun)))
    return response
  | .error (.routeNotFound path) =>
    lines.write .warn "no route for request" [Log.errorField (Error.routeNotFound path).message]
    return errorResponse (.routeNotFound path)
  | .error e =>
    let elapsed := (← clock) - begun
    lines.write .error "Error handling request"
      [Log.errorField e.message, Log.spanField "duration" elapsed]
    return errorResponse e

/-- Answers a request by its route. -/
def answerRouted (w : Worker) (steps : Nat) (lines : Log.Lines) (r : Request) : Job (Response × Worker) := do
  let begun ← clock
  let (handled, w) ← w.route steps r
  return (← conclude lines r begun handled, w)

/-! ### All other requests -/

def isCacheable (r : Request) : Bool := r.method = .get || r.method = .head

/-- What the cache has for a request. A cache that fails has nothing. -/
def cachedFor (w : Worker) (lines : Log.Lines) (r : Request) : Job (Option Response) := do
  if !isCacheable r then return none
  match w.scope.resolve r.target.text with
  | .error _ => return none
  | .ok url =>
    match ← (w.cache.responseOf? url).run with
    | .ok found => return found
    | .error e =>
      lines.write .warn "cache lookup failed" [("url", .string url.text), Log.errorField e.message]
      return none

def forward (r : Request) : Attempt Error Response := withError .fetch (fetch r)

/-- Answers a request from the cache, or else by the network. -/
def answerUnrouted (w : Worker) (lines : Log.Lines) (r : Request) : Attempt Error Response := do
  let cached ← w.cachedFor lines r
  lines.write .debug "pass-through request"
    [("method", .string r.method.name), ("cached", .bool cached.isSome)]
  match cached with
  | some response => return response
  | none => forward r

/-! ### Requests -/

/-- Answers a request; a template is loaded in at most so many steps. -/
def answerWithin (w : Worker) (steps : Nat) (r : Request) : Job (Except Error Response × Worker) := do
  let lines ← Log.Lines.start r.target.path w.leastLevel w.config.logFormat
  if !w.phase.serves then
    lines.write .debug "worker not active, forwarding" [("phase", .string w.phase.name)]
    return (← (forward r).run, w)
  else if w.isRouted r then
    let (response, w) ← w.answerRouted steps lines r
    return (.ok response, w)
  else return (← (w.answerUnrouted lines r).run, w)

def answer (w : Worker) (r : Request) : Job (Except Error Response × Worker) :=
  w.answerWithin Template.Engine.maxSteps r

/-- What the host tells a worker. -/
inductive Event where
  | install
  | activate
  | fetch (r : Request)

/-- What came of an event: the number of resources stored, the names of the generations deleted, or
a response. -/
inductive Outcome where
  | installed (count : Nat)
  | activated (pruned : List String)
  | response (r : Response)

def handle (w : Worker) : Event → Job (Except Error Outcome × Worker)
  | .install => do
    let (result, w) ← w.install
    return (result.map .installed, w)
  | .activate => do
    let (result, w) ← w.activate
    return (result.map .activated, w)
  | .fetch r => do
    let (result, w) ← w.answer r
    return (result.map .response, w)

end EdgeWorker.Worker
