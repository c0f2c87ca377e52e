import EdgeWorker.Cache.Storage
import EdgeWorker.Fetch.Error
import EdgeWorker.Log.Record

/-!
What a worker asks of its host: to fetch, to keep entries of a cache, to take a log record, the
time, and names for requests. A job is a computation that asks such questions.
-/

namespace EdgeWorker.Host

/-- A question to the host. -/
inductive Question where
  | fetch (request : Http.Request)
  | store (op : Cache.Operation)
  | log (record : Log.Record)
  | now
  /-- The microseconds on a clock that never goes back. -/
  | clock
  | freshId

abbrev Answer : Question → Type
  | .fetch _ => Except Fetch.Error Http.Response
  | .store op => op.Answer
  | .log _ => Unit
  | .now => Cache.Timestamp
  | .clock => Nat
  | .freshId => String

/-- A computation over a host. -/
abbrev Job := Action Question Answer

/-- A computation over a host that may fail. -/
abbrev Attempt (ε : Type) := ExceptT ε Job

def fetch (request : Http.Request) : Attempt Fetch.Error Http.Response :=
  ExceptT.mk (Action.question (Question.fetch request))

def store (op : Cache.Operation) : Attempt Cache.Error op.Result :=
  ExceptT.mk (Action.question (Question.store op))

def log (record : Log.Record) : Job Unit := Action.question (Question.log record)

def now : Job Cache.Timestamp := Action.question Question.now

/-- The microseconds on the clock. -/
def clock : Job Nat := Action.question Question.clock

/-- A name that no other request has. -/
def freshId : Job String := Action.question Question.freshId

/-- An attempt whose outcome is known. -/
def settled {ε α : Type} (outcome : Except ε α) : Attempt ε α := ExceptT.mk (.done outcome)

/-- The same attempt with its failure seen in another way. -/
def withError {ε δ α : Type} (f : ε → δ) (attempt : Attempt ε α) : Attempt δ α :=
  ExceptT.mk (attempt.run.bind fun result => .done (result.mapError f))

/-- The results of several attempts, all of which are made; the first failure counts. -/
def all {ε α : Type} (attempts : List (Attempt ε α)) : Attempt ε (List α) := do
  let results ← ExceptT.lift (attempts.mapM ExceptT.run)
  settled (results.mapM id)

end EdgeWorker.Host
