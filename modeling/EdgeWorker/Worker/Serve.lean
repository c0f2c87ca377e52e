import EdgeWorker.Worker.Answer

/-!
Serving requests at an edge that tells workers nothing of installation and activation: there is a
fresh worker for every request, and it makes itself active before it answers.
-/

namespace EdgeWorker.Worker

open EdgeWorker.Host EdgeWorker.Http EdgeWorker.Json

/-- The configuration that a worker is deployed with. -/
def deployed : Config := { origin := "http://127.0.0.1:8080" }

/-- The request sent on to the origin of a configuration; its path and query are kept. -/
def readdress (r : Request) (c : Config) : Except Error Request :=
  match c.scope with
  | .error e => .error (.config e)
  | .ok scope =>
    match Target.ofText (scope.base.origin ++ r.target.pathAndQuery?.getD "/") with
    | .error e => .error (.badRequest s!"invalid request URI: {e.message}")
    | .ok target => .ok { r with target }

def report (level : Log.Level) (message : String) (field : String × Value) : Job Unit :=
  log ⟨level, Log.workerTarget, message, [field]⟩

/-- The response with a text and no type. -/
def bare (status : Status) (body : String) : Response := .plain status (Text.bytes body)

/-- Answers a request with a worker that has its routes. A worker that cannot be made active
forwards the request. -/
def serveWith (w : Worker) (r : Request) : Job Response := do
  let (ready, w) ← w.ensureReady
  match ready with
  | .ok true =>
    report .info "cache generation installed and activated" ("generation", .string w.cache.generation)
  | .ok false => pure ()
  | .error e => report .error "cache lifecycle failed, forwarding unrouted" (Log.errorField e.message)
  match (← w.answer r).1 with
  | .ok response => return response
  | .error e =>
    report .error "upstream fetch failed" (Log.errorField e.message)
    return bare .badGateway "Bad Gateway"

/-- Serves a request from start to finish. -/
def serve (c : Config) (r : Request) : Job Response := do
  match readdress r c with
  | .error e => return bare .badRequest e.message
  | .ok r =>
    match ← (bootstrap c).run with
    | .error e =>
      report .error "failed to start interceptor" (Log.errorField e.message)
      return bare .internalServerError "Error handling request"
    | .ok w => w.serveWith r

end EdgeWorker.Worker
