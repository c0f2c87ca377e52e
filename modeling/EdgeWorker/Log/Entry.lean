import EdgeWorker.Json.Printer
import EdgeWorker.Log.Level

/-!
Log lines about one request, as JSON texts and for reading.
-/

namespace EdgeWorker.Log

open EdgeWorker.Json

/-- A line about a request. Fields are in the order of their names. -/
structure Entry where
  level : Level
  message : String
  requestId : String
  route : Option String
  fields : List (String × Value)
  /-- Microseconds since the request began. -/
  elapsed : Option Nat

namespace Entry

/-- The entry as a JSON text. Its fields stand between the route and the time, whatever their
names. -/
def json (e : Entry) : String :=
  String.ofList <| record <|
    [("level", quote e.level.name), ("message", quote e.message), ("request_id", quote e.requestId)]
      ++ (e.route.toList.map fun r => ("route", quote r))
      ++ (e.fields.map fun (k, v) => (k, v.write))
      ++ (e.elapsed.toList.map fun (n : Nat) => ("elapsed_us", writeInt (n : Nat)))

/-- The entry for reading. -/
def human (e : Entry) : String :=
  let fields := e.fields.map fun (k, v) => k ++ "=" ++ v.text
  s!"[{e.requestId}] {e.message}"
    ++ (match e.route with
      | some r => s!" route={r}"
      | none => "")
    ++ (match e.elapsed with
      | some n => s!" ({n}us)"
      | none => "")
    ++ (if fields.isEmpty then "" else " | " ++ String.intercalate " " fields)

end Entry
end EdgeWorker.Log
