import EdgeWorker.Cache.KeyValue
import EdgeWorker.Cache.Storage

/-!
Generations in a store of single values. One key holds the list of generations, one key for every
generation the list of its addresses, and one key for every entry its JSON text.
-/

namespace EdgeWorker.Cache.Persistent

open EdgeWorker.Json KeyValue

def generationsKey : String := "hx:generations"

/-- The key of the list of addresses of a generation. -/
def indexKey (generation : String) : String := "hx:gen:" ++ generation

def entryKey (generation url : String) : String := "hx:gen:" ++ generation ++ ":" ++ url

def listText (strings : List String) : Bytes := Text.utf8 (brackets (strings.map quote))

def decode {α : Type} (r : Reader α) (bytes : Bytes) : Attempt α :=
  match r.ofBytes? bytes with
  | some a => pure a
  | none => throw (.malformed .text)

/-- The list of a key, empty if there is none. -/
def readList (key : String) : Attempt (List String) := do
  match ← get key with
  | some bytes => decode (Reader.list Reader.string) bytes
  | none => return []

def writeList (key : String) (strings : List String) : Attempt Unit := set key (listText strings)

/-- A list with a string at its end, unless it has it. -/
def addTo (strings : List String) (s : String) : List String :=
  if strings.contains s then strings else strings ++ [s]

/-- Makes a generation unless it is there. -/
def openGeneration (generation : String) : Attempt Unit := do
  let generations ← readList generationsKey
  if !generations.contains generation then writeList generationsKey (generations ++ [generation])

def deleteEntries (generation : String) : List String → Attempt Unit
  | [] => pure ()
  | url :: rest => do
    delete (entryKey generation url)
    deleteEntries generation rest

/-- Deletes a generation: its entries, then the list of them, and last its name. -/
def deleteGeneration (generation : String) : Attempt Bool := do
  let generations ← readList generationsKey
  if !generations.contains generation then return false
  deleteEntries generation (← readList (indexKey generation))
  delete (indexKey generation)
  writeList generationsKey (generations.filter (· ≠ generation))
  return true

def getEntry (generation url : String) : Attempt (Option Entry) := do
  match ← get (entryKey generation url) with
  | some bytes => return some (← decode Entry.reader bytes)
  | none => return none

/-- Puts entries, all of them or none, and then lists them in the generation. -/
def putAll (generation : String) (entries : List (String × Entry)) : Attempt Unit := do
  setAll (entries.map fun (url, entry) => (entryKey generation url, Text.utf8 entry.json))
  openGeneration generation
  let urls ← readList (indexKey generation)
  writeList (indexKey generation) (entries.foldl (fun urls (url, _) => addTo urls url) urls)

/-- How an operation is carried out. -/
def attempt : (op : Operation) → Attempt op.Result
  | .generations => readList generationsKey
  | .openGeneration generation => openGeneration generation
  | .deleteGeneration generation => deleteGeneration generation
  | .get generation url => getEntry generation url
  | .put generation url entry => putAll generation [(url, entry)]
  | .putAll generation entries => putAll generation entries
  | .urls generation => do return sorted (← readList (indexKey generation))

/-- How an operation is answered. -/
def perform (op : Operation) : Steps op.Answer := (attempt op).run

end EdgeWorker.Cache.Persistent
