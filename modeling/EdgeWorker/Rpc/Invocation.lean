import EdgeWorker.Fetch.Draft
import EdgeWorker.Host
import EdgeWorker.Rpc.Envelope
import EdgeWorker.Scope

/-!
Calling a method behind a path: the call is posted, and what comes back is its result or the reason
why there is none.
-/

namespace EdgeWorker.Rpc

open EdgeWorker.Host EdgeWorker.Json

/-- Why a call has no result. -/
inductive Error where
  /-- The path of the call is no address. -/
  | address (path : String) (reason : Url.UrlError)
  /-- There is no answer of a success. -/
  | transport (url : String) (reason : Fetch.Error)
  /-- The reply tells of a failure. -/
  | failure (method message : String)
  /-- The answer is no reply; what is wrong with it. -/
  | malformed (detail : String)
  deriving DecidableEq

namespace Error

def message : Error → String
  | address path reason => s!"RPC transport error calling {path}: {reason.message}"
  | transport url reason => s!"RPC transport error calling {url}: {reason.message}"
  | failure method text => s!"RPC call {method} failed: {text}"
  | malformed detail => s!"invalid RPC response: {detail}"

/-- Whether the other side reported the failure itself. -/
def isReported : Error → Bool
  | failure .. => true
  | _ => false

end Error

/-- The request of a call at an address. -/
def requestOf (url : Url) (c : Call) : Except Fetch.Error Http.Request :=
  ((Fetch.Draft.start .post url.text).header "Accept" "application/json" |>.json c.text).request

def resultOf (url : Url) (c : Call) (response : Http.Response) : Except Error Value := do
  let response ← response.orStatus.mapError (.transport url.text)
  match Reply.reader.ofBytes? response.body with
  | none => throw (.malformed "the body is no reply")
  | some reply => reply.outcome.mapError (.failure c.method)

def call (url : Url) (c : Call) : Attempt Error Value := do
  let request ← settled ((requestOf url c).mapError (.transport url.text))
  let response ← withError (Error.transport url.text) (fetch request)
  settled (resultOf url c response)

/-- Calls a method behind a path below a scope. A call that fails is reported. -/
def invoke (s : Scope) (path method : String) (params : Value) : Attempt Error Value := do
  let url ← settled ((s.resolve path).mapError (.address path))
  let result ← ExceptT.lift (call url (.of method params)).run
  if let .error e := result then
    log ⟨.error, Log.rpcTarget, "RPC call failed",
      [("rpc_path", .string path), ("method", .string method), Log.errorField e.message]⟩
  settled result

end EdgeWorker.Rpc
