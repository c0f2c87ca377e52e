import EdgeWorker.Http.Message
import EdgeWorker.Json.Tree
import EdgeWorker.Url.Reader

/-!
What goes wrong between a request and the use of its answer.
-/

namespace EdgeWorker

namespace Fetch

open EdgeWorker.Http

inductive Error where
  /-- The address is none. -/
  | url (e : Url.UrlError)
  /-- The address is no request target. -/
  | target (e : TargetError)
  | headerName
  | headerValue
  /-- The network failed. -/
  | transport (reason : String)
  /-- Nobody answers at the address. -/
  | unreachable (address : String)
  /-- The answer is not that of a success. -/
  | status (s : Status)
  /-- The body is no text. -/
  | notText (e : Text.Utf8Error)
  /-- The body is no JSON text. -/
  | notJson
  deriving DecidableEq

def Error.message : Error → String
  | .url e => s!"Invalid URL: {e.message}"
  | .target e => s!"Request failed: {e.message}"
  | .headerName => "Request failed: invalid HTTP header name"
  | .headerValue => "Request failed: failed to parse header value"
  | .transport reason => s!"Request failed: {reason}"
  | .unreachable address => s!"No route to {address}"
  | .status s => s!"HTTP {s.code}: " ++ (s.phrase?.getD "Unknown error")
  | .notText e => s!"Failed to parse response: Invalid UTF-8: {e.message}"
  | .notJson => "Failed to parse response"

end Fetch

namespace Http.Response

def isSuccess (r : Response) : Bool := r.status.isSuccess

def text (r : Response) : Except Fetch.Error String :=
  match Text.ofBytes r.body with
  | .ok s => .ok s
  | .error e => .error (.notText e)

def json (r : Response) : Except Fetch.Error Json.Value :=
  match Json.Value.ofBytes? r.body with
  | some v => .ok v
  | none => .error .notJson

def orStatus (r : Response) : Except Fetch.Error Response :=
  if r.isSuccess then .ok r else .error (.status r.status)

end Http.Response
end EdgeWorker
