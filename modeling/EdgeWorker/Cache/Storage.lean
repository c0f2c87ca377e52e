import EdgeWorker.Action
import EdgeWorker.Cache.Entry
import EdgeWorker.Keyed

/-!
Storages of cache generations. A generation maps addresses to entries; one that does not exist is
made when something is put into it. This module says what a storage is asked, and how a storage
that is kept in memory answers.
-/

namespace EdgeWorker.Cache

/-- What a storage is asked. -/
inductive Operation where
  /-- The names of the generations, oldest first. -/
  | generations
  | openGeneration (generation : String)
  /-- Whether the generation was there. -/
  | deleteGeneration (generation : String)
  | get (generation url : String)
  | put (generation url : String) (entry : Entry)
  /-- Puts all entries or none. -/
  | putAll (generation : String) (entries : List (String × Entry))
  /-- The addresses of a generation, sorted. -/
  | urls (generation : String)

namespace Operation

/-- What an operation results in where nothing fails. -/
abbrev Result : Operation → Type
  | generations => List String
  | openGeneration _ => Unit
  | deleteGeneration _ => Bool
  | get _ _ => Option Entry
  | put _ _ _ => Unit
  | putAll _ _ => Unit
  | urls _ => List String

abbrev Answer (op : Operation) : Type := Except Error op.Result

end Operation

def sorted (strings : List String) : List String := strings.mergeSort fun a b => a ≤ b

/-- Generations that are kept in memory, oldest first. -/
abbrev Generations := Keyed String (Keyed String Entry)

namespace Generations

def empty : Generations := Keyed.empty

/-- The generations with one that is there. -/
def openGeneration (gs : Generations) (generation : String) : Generations :=
  gs.alter generation fun entries => entries.getD Keyed.empty

/-- The generations with entries put into one of them. -/
def putAll (gs : Generations) (generation : String) (entries : List (String × Entry)) : Generations :=
  gs.alter generation fun old => (old.getD Keyed.empty).putAll entries

/-- The answer to an operation, and the generations after it. -/
def perform (gs : Generations) : (op : Operation) → op.Answer × Generations
  | .generations => (.ok gs.keys, gs)
  | .openGeneration generation => (.ok (), gs.openGeneration generation)
  | .deleteGeneration generation => (.ok (gs.contains generation), gs.erase generation)
  | .get generation url => (.ok ((gs.get? generation).bind fun entries => entries.get? url), gs)
  | .put generation url entry => (.ok (), gs.putAll generation [(url, entry)])
  | .putAll generation entries => (.ok (), gs.putAll generation entries)
  | .urls generation =>
    (.ok (sorted (((gs.get? generation).map Keyed.keys).getD [])), gs)

end Generations
end EdgeWorker.Cache
