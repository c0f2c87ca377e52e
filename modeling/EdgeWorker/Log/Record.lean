import EdgeWorker.Config
import EdgeWorker.Log.Entry
import EdgeWorker.Text.Search

/-!
Log records: what the parts of a worker report, and the lines about single requests.
-/

namespace EdgeWorker.Log

open EdgeWorker.Json

/-- A record: its level, the part of the worker that it comes from, a message and fields. -/
structure Record where
  level : Level
  target : String
  message : String
  fields : List (String × Value)

/-- The parts of a worker that report. -/
def cacheTarget : String := "hx_cache"
def routerTarget : String := "hx_router"
def templateTarget : String := "hx_template"
def rpcTarget : String := "hx_rpc"
def interceptorTarget : String := "hx_interceptor"
def workerTarget : String := "hx_worker"
def requestTarget : String := "hx"

/-- The beginnings of errors that go on with the words of a parser, of JSON or of templates. Those
words are not described here: a record has such a text only as far as this, where a log has all of
it. -/
def cuts : List String :=
  ["failed to compile", "failed to render", "invalid RPC response", "invalid route manifest",
   "serialization error"]

/-- The text of an error without the words of a parser. -/
def brief (text : String) : String :=
  cuts.foldl (fun text words =>
    match Text.cutAt words.toList text.toList with
    | some (before, _) => String.ofList before ++ words
    | none => text) text

/-- The field of an error. -/
def errorField (text : String) : String × Value := ("error", .string (brief text))

/-! ### Lines about requests -/

/-- What is known of a request when its lines are written. -/
structure Logger where
  requestId : String
  route : Option String
  least : Level := .info
  format : LogFormat := .json

/-- Sets a field of a line. -/
def setField (fields : List (String × Value)) (key : String) (value : Value) : List (String × Value) :=
  Value.insertMember key value fields

/-- The record of a line, unless its level is below the least; `elapsed` microseconds have passed. -/
def Logger.record? (logger : Logger) (elapsed : Nat) (level : Level) (message : String)
    (fields : List (String × Value)) : Option Record :=
  if level.atLeast logger.least then
    let entry : Entry := ⟨level, message, logger.requestId, logger.route, fields, some elapsed⟩
    some ⟨level, requestTarget, match logger.format with
      | .json => entry.json
      | .human => entry.human, []⟩
  else none

end EdgeWorker.Log
