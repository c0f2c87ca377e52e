import EdgeWorker.Fetch.Error
import EdgeWorker.Http.Status
import EdgeWorker.Text.Utf8

/-!
What goes wrong with stored responses and with filling a cache.
-/

namespace EdgeWorker.Cache

/-- Why something stored cannot be used. -/
inductive Malformed where
  /-- The text of an entry or of a list. -/
  | text
  /-- The written form of a body. -/
  | base64
  /-- A body that is to be a text. -/
  | utf8 (e : Text.Utf8Error)
  | status
  | headerName
  | headerValue
  deriving DecidableEq

def Malformed.message : Malformed → String
  | .text => "unexpected JSON text"
  | .base64 => "body is not base64"
  | .utf8 e => e.message
  | .status => "invalid status code"
  | .headerName => "invalid HTTP header name"
  | .headerValue => "failed to parse header value"

inductive Error where
  | malformed (reason : Malformed)
  /-- The storage failed. -/
  | storage (reason : String)
  /-- A path that is no address in the scope. -/
  | path (path : String) (reason : Url.UrlError)
  /-- A resource has no answer. -/
  | fetch (url : String) (reason : Fetch.Error)
  /-- The answer for a resource is not that of a success. -/
  | status (url : String) (status : Http.Status)
  deriving DecidableEq

def Error.message : Error → String
  | .malformed reason => s!"serialization error: {reason.message}"
  | .storage reason => s!"storage error: {reason}"
  | .path p reason => s!"invalid resource path '{p}': {reason.message}"
  | .fetch url reason => s!"failed to fetch {url}: {reason.message}"
  | .status url s => s!"bad status {s.code} for {url}"

end EdgeWorker.Cache
