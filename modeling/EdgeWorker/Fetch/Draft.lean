import EdgeWorker.Fetch.Error
import EdgeWorker.Json.Printer

/-!
Drafts of requests: headers and a body are put together freely and checked when the request is
made.
-/

namespace EdgeWorker.Fetch

open EdgeWorker.Http

/-- A request that is not checked yet. -/
structure Draft where
  method : Method
  address : String
  headers : List (String × String)
  body : Bytes

namespace Draft

def start (method : Method) (address : String) : Draft := ⟨method, address, [], []⟩

def header (d : Draft) (name value : String) : Draft :=
  { d with headers := d.headers.filter (fun h => Ascii.lower h.1 != Ascii.lower name) ++ [(name, value)] }

def contentType (d : Draft) (value : String) : Draft := d.header "Content-Type" value

def json (d : Draft) (text : String) : Draft :=
  { d.contentType "application/json" with body := Text.bytes text }

/-- The headers of a draft, checked one after another. -/
def checkHeaders (hs : List (String × String)) : Except Error Headers :=
  hs.foldlM (fun (acc : Headers) (name, value) =>
    match HeaderName.ofText? name, HeaderValue.ofText? value with
    | none, _ => .error .headerName
    | _, none => .error .headerValue
    | some n, some v => .ok (acc.insert n v)) Keyed.empty

def request (d : Draft) : Except Error Request :=
  match Url.ofText d.address with
  | .error e => .error (.url e)
  | .ok url =>
    match Target.ofText url.text with
    | .error e => .error (.target e)
    | .ok target =>
      match checkHeaders d.headers with
      | .error e => .error e
      | .ok headers => .ok ⟨d.method, target, headers, d.body⟩

end Draft

/-- The request for what is at an address. -/
def getRequest (url : Url) : Except Error Request := (Draft.start .get url.text).request

end EdgeWorker.Fetch
