import EdgeWorker.Ascii

/-!
How much a log line matters.
-/

namespace EdgeWorker.Log

/-- The levels from the least to the greatest. -/
inductive Level where
  | trace
  | debug
  | info
  | warn
  | error
  deriving DecidableEq, Repr

namespace Level

/-- All levels in their order. -/
def all : List Level := [.trace, .debug, .info, .warn, .error]

def rank : Level → Nat
  | .trace => 0
  | .debug => 1
  | .info => 2
  | .warn => 3
  | .error => 4

def atLeast (level least : Level) : Bool := least.rank ≤ level.rank

/-- The name of a level in small letters. -/
def name : Level → String
  | .trace => "trace"
  | .debug => "debug"
  | .info => "info"
  | .warn => "warn"
  | .error => "error"

/-- The name of a level in capital letters. -/
def capitals : Level → String
  | .trace => "TRACE"
  | .debug => "DEBUG"
  | .info => "INFO"
  | .warn => "WARN"
  | .error => "ERROR"

/-- The level of a name in any case of letters, or the name that is none. -/
def ofText (text : String) : Except String Level :=
  let name := Ascii.lower text
  let names := ("warning", Level.warn) :: all.map fun l => (l.name, l)
  match names.lookup name with
  | some level => .ok level
  | none => .error s!"unknown log level: {name}"

end Level
end EdgeWorker.Log
