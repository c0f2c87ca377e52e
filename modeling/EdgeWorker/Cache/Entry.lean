import EdgeWorker.Base64
import EdgeWorker.Cache.Error
import EdgeWorker.Cache.Timestamp
import EdgeWorker.Json.Record

/-!
Responses as a cache stores them. An entry is a JSON record, so its body is kept in base64 and only
headers that are texts are kept.
-/

namespace EdgeWorker.Cache

open EdgeWorker.Json EdgeWorker.Http

structure Entry where
  status : UInt16
  headers : List (String × String)
  /-- The body in base64. -/
  body : String
  storedAt : Timestamp
  deriving DecidableEq

namespace Entry

def of (status : UInt16) (body : Bytes) (now : Timestamp) : Entry :=
  ⟨status, [], String.ofList (Base64.encode body), now⟩

def withHeader (e : Entry) (name value : String) : Entry :=
  { e with headers := e.headers ++ [(name, value)] }

/-- The headers of a response that are texts. -/
def textHeaders (hs : Headers) : List (String × String) :=
  hs.fields.filterMap fun (name, value) => value.text?.map fun text => (name.text, text)

def ofResponse (r : Response) (now : Timestamp) : Entry :=
  { of (UInt16.ofNat r.status.code) r.body now with headers := textHeaders r.headers }

def bytes (e : Entry) : Except Error Bytes :=
  match Base64.decode? e.body.toList with
  | some bytes => .ok bytes
  | none => .error (.malformed .base64)

def text (e : Entry) : Except Error String :=
  match e.bytes with
  | .error e => .error e
  | .ok bytes => match Text.ofBytes bytes with
    | .ok s => .ok s
    | .error e => .error (.malformed (.utf8 e))

/-- The headers of a response with one more, unless it is none. -/
def addHeader (hs : Headers) (header : String × String) : Except Error Headers :=
  match HeaderName.ofText? header.1, HeaderValue.ofText? header.2 with
  | none, _ => .error (.malformed .headerName)
  | _, none => .error (.malformed .headerValue)
  | some name, some value => .ok (hs.append name value)

def response (e : Entry) : Except Error Response :=
  match e.bytes, Status.ofNat? e.status.toNat with
  | .error e, _ => .error e
  | _, none => .error (.malformed .status)
  | .ok body, some status =>
    (e.headers.foldlM addHeader (Keyed.empty : Headers)).map fun headers => ⟨status, headers, body⟩

def json (e : Entry) : List Char :=
  record
    [("status", writeInt e.status.toNat),
     ("headers", brackets (e.headers.map fun (name, value) => brackets [quote name, quote value])),
     ("body", quote e.body), ("stored_at", quote e.storedAt.text)]

def timestamp : Reader Timestamp := fun depth t => (Reader.string depth t).bind Timestamp.ofText?

def reader : Reader Entry := fun depth t => do
  let fs ← Fields.of? ["status", "headers", "body", "stored_at"] depth t
  let status ← fs.required "status" (Reader.int 0 0xFFFF)
  let headers ← fs.required "headers" (Reader.list (Reader.pair Reader.string Reader.string))
  let body ← fs.required "body" Reader.string
  let storedAt ← fs.required "stored_at" timestamp
  return ⟨UInt16.ofNat status.toNat, headers, body, storedAt⟩

end Entry
end EdgeWorker.Cache
