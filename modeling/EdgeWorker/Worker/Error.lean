import EdgeWorker.Config
import EdgeWorker.Http.Message
import EdgeWorker.Rpc.Invocation
import EdgeWorker.Template.Error

/-!
What goes wrong while a worker handles what the host tells it, and the answers of a worker that are
made up by itself.
-/

namespace EdgeWorker.Worker

open EdgeWorker.Http

/-- Why something cannot be handled. -/
inductive Error where
  | routeNotFound (path : String)
  | badRequest (reason : String)
  | config (e : ConfigError)
  | cache (e : Cache.Error)
  | template (e : Template.Error)
  | rpc (e : Rpc.Error)
  | fetch (e : Fetch.Error)
  deriving DecidableEq

namespace Error

def message : Error → String
  | routeNotFound path => s!"no route for {path}"
  | badRequest reason => s!"bad request: {reason}"
  | config e => e.message
  | cache e => e.message
  | template e => e.message
  | rpc e => e.message
  | fetch e => e.message

/-- The status of the answer to a routed request that failed. -/
def status : Error → Status
  | routeNotFound _ => .notFound
  | _ => .internalServerError

end Error

/-- A response with a type and a body. -/
def typed (status : Status) (type : HeaderValue) (body : String) : Response :=
  ⟨status, Headers.insert Keyed.empty ⟨"content-type", by decide +kernel⟩ type, Text.bytes body⟩

/-- The response with a page. -/
def pageResponse (page : String) : Response :=
  typed .ok ⟨Text.bytes "text/html", by decide +kernel⟩ page

/-- The response without a page. -/
def emptyResponse : Response := .plain .ok []

/-- What the answer to a routed request that failed says. -/
def Error.body : Error → String
  | routeNotFound _ => "Not Found"
  | _ => "Error handling request"

/-- The answer to a routed request that failed. -/
def errorResponse (e : Error) : Response :=
  typed e.status ⟨Text.bytes "text/plain", by decide +kernel⟩ e.body

end EdgeWorker.Worker
