import EdgeWorker.Host

/-!
Writing the lines about one request. Every line carries the time since the request began.
-/

namespace EdgeWorker.Log

open EdgeWorker.Host EdgeWorker.Json

/-- The lines about a request: how they are written, and what the clock showed when it began. -/
structure Lines where
  logger : Logger
  begun : Nat

/-- The field of a time span in milliseconds, given in microseconds. -/
def spanField (key : String) (span : Nat) : String × Value := (key, Value.nat (span / 1000))

namespace Lines

/-- The lines about a request for a path. The request gets a name of its own. -/
def start (path : String) (least : Level) (format : LogFormat) : Job Lines := do
  let requestId ← freshId
  return ⟨{ requestId, route := some path, least, format }, ← clock⟩

/-- Writes a line, unless it matters too little. Of two fields of one name the last one counts. -/
def write (l : Lines) (level : Level) (message : String) (fields : List (String × Value)) : Job Unit := do
  let sorted := fields.foldl (fun fs (key, value) => setField fs key value) []
  match l.logger.record? ((← clock) - l.begun) level message sorted with
  | some record => log record
  | none => return

end Lines
end EdgeWorker.Log
