import EdgeWorker.Http.Message
import EdgeWorker.Json.Basic
import EdgeWorker.Url.Form

/-!
The parameters of a call: the pairs of the form and of the query of a request under their names,
and all that was gathered, part by part, under a name of its own.
-/

namespace EdgeWorker.Params

open EdgeWorker.Http EdgeWorker.Json

/-- The name under which everything gathered is found. -/
def gatheredKey : String := "_htmx"

inductive Error where
  | multipart
  deriving DecidableEq, Repr

def Error.message : Error → String
  | .multipart => "multipart form bodies are not supported"

/-- Whether requests of a method have a form as their body. -/
def hasForm (m : Method) : Bool := m = .post || m = .put

def form (r : Request) : Except Error (List (String × String)) :=
  if !hasForm r.method then .ok []
  else if (Text.after? "multipart/".toList ((r.headers.text? "content-type").getD "").toList).isSome then
    .error .multipart
  else .ok (Url.formPairs r.body)

def query (r : Request) : List (String × String) :=
  match r.target.query with
  | some q => Url.formPairs (Text.bytes q)
  | none => []

/-- The headers whose names begin with a text, in any case of letters. -/
def headers (r : Request) (start : String) : List (String × String) :=
  (r.headers.fields.filter fun (name, _) =>
      (Text.after? (Ascii.lower start).toList name.text.toList).isSome).map fun (name, value) =>
    (name.text, String.ofList (Text.decodeLossy value.bytes))

/-- The object of pairs; the last of a name wins. -/
def object (pairs : List (String × String)) : Value :=
  Value.ofMembers (pairs.map fun (k, v) => (k, .string v))

/-- The parameters of a request. A pair of the query stands before one of the form with the same
name, and nothing stands before what was gathered. -/
def gather (r : Request) (headerStart : String) : Except Error Value :=
  match form r with
  | .error e => .error e
  | .ok form =>
    let all := Value.ofMembers
      [("form", object form), ("query", object (query r)), ("method", .string r.method.name),
       ("headers", object (headers r headerStart))]
    .ok (Value.ofMembers
      (((form ++ query r).map fun (k, v) => (k, .string v)) ++ [(gatheredKey, all)]))

end EdgeWorker.Params
