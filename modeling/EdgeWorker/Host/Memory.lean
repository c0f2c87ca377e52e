import EdgeWorker.Cache.Persistent
import EdgeWorker.Host

/-!
A host that lives in memory, for development. Its network answers from a fixed table of addresses
and keeps what was sent, its storage can be told to fail, and its clock stands still.
-/

namespace EdgeWorker.Host

open EdgeWorker.Cache EdgeWorker.Http

/-- A network that answers from a table of addresses, with the requests sent so far, last first. -/
structure Network where
  handlers : Keyed String (Request → Response)
  sent : List Request

namespace Network

def empty : Network := ⟨Keyed.empty, []⟩

def serve (n : Network) (address : String) (handler : Request → Response) : Network :=
  { n with handlers := n.handlers.put address handler }

/-- The answer to a request. Nobody answers at an address that is not in the table. -/
def fetch (n : Network) (r : Request) : Except Fetch.Error Response × Network :=
  let answer := match n.handlers.get? r.target.text with
    | some handler => .ok (handler r)
    | none => .error (.unreachable r.target.text)
  (answer, { n with sent := r :: n.sent })

/-- The requests sent to an address, first one first. -/
def sentTo (n : Network) (address : String) : List Request :=
  (n.sent.filter fun r => r.target.isAddressedBy address).reverse

end Network

/-- A store of single values that refuses some keys. -/
structure Store where
  values : Keyed String Bytes
  refusedGets : List String
  refusedSets : List String
  refusedDeletes : List String

namespace Store

def empty : Store := ⟨Keyed.empty, [], [], []⟩

def refusal (what : String) : Cache.Error := .storage ("refused " ++ what)

def get (s : Store) (key : String) : Except Cache.Error (Option Bytes) :=
  if s.refusedGets.contains key then .error (refusal ("get " ++ key)) else .ok (s.values.get? key)

def set (s : Store) (key : String) (value : Bytes) : Except Cache.Error Unit × Store :=
  if s.refusedSets.contains key then (.error (refusal ("set " ++ key)), s)
  else (.ok (), { s with values := s.values.put key value })

def delete (s : Store) (key : String) : Except Cache.Error Unit × Store :=
  if s.refusedDeletes.contains key then (.error (refusal ("delete " ++ key)), s)
  else (.ok (), { s with values := s.values.erase key })

/-- The record of a value that could not be taken back. -/
def lostRecord (key : String) (e : Cache.Error) : Log.Record :=
  ⟨.error, Log.cacheTarget, "failed to roll back cache entry",
    [("key", .string key), Log.errorField e.message]⟩

/-- The answer to a question, the store after it, and the log records, last one first. -/
def answer : (q : KeyValue.Question) → Store × List Log.Record →
    KeyValue.Answer q × Store × List Log.Record
  | .get key, (s, logs) => (s.get key, s, logs)
  | .set key value, (s, logs) => ((s.set key value).1, (s.set key value).2, logs)
  | .delete key, (s, logs) => ((s.delete key).1, (s.delete key).2, logs)
  | .report key e, (s, logs) => ((), s, lostRecord key e :: logs)

end Store

/-- Where the generations of a cache are kept. -/
inductive Storage where
  | memory (gs : Generations)
  | keyValue (s : Store)

def operationName : Operation → String
  | .generations => "generations"
  | .openGeneration _ => "open"
  | .deleteGeneration _ => "delete_generation"
  | .get _ _ => "get"
  | .put _ _ _ => "put"
  | .putAll _ _ => "put_all"
  | .urls _ => "urls"

/-- The state of a host in memory: its network and storage, the names of the operations that fail,
and the log records so far, last one first. -/
structure Memory where
  network : Network
  storage : Storage
  failing : List String
  logs : List Log.Record

namespace Memory

def empty : Memory := ⟨.empty, .memory .empty, [], []⟩

/-- The answer to an operation where none fails. -/
def perform (m : Memory) (op : Operation) : op.Answer × Memory :=
  match m.storage with
  | .memory gs =>
    let (answer, gs) := gs.perform op
    (answer, { m with storage := .memory gs })
  | .keyValue s =>
    let (answer, s, logs) := (Persistent.perform op).run Store.answer (s, m.logs)
    (answer, { m with storage := .keyValue s, logs })

/-- The answer to a question, and the host after it. -/
def answer : (q : Question) → Memory → Answer q × Memory
  | .fetch r, m =>
    let (response, network) := m.network.fetch r
    (response, { m with network })
  | .store op, m =>
    if m.failing.contains (operationName op) then
      (.error (Store.refusal (operationName op)), m)
    else m.perform op
  | .log record, m => ((), { m with logs := record :: m.logs })
  | .now, m => (.epoch, m)
  | .clock, m => (0, m)
  | .freshId, m => ("ID", m)

def run {α : Type} (m : Memory) (job : Job α) : α × Memory := job.run answer m

/-- The storage when it refuses nothing. -/
def Storage.willing : Storage → Storage
  | .keyValue s => .keyValue { Store.empty with values := s.values }
  | storage => storage

/-- The generations with their addresses. A list that cannot be read counts as empty. -/
def generations (m : Memory) : List (String × List String) :=
  let m := { m with storage := Storage.willing m.storage }
  let names := match (m.perform .generations).1 with
    | .ok names => names
    | .error _ => []
  names.map fun name => (name, match (m.perform (.urls name)).1 with
    | .ok urls => urls
    | .error _ => [])

end Memory
end EdgeWorker.Host
