import EdgeWorker.Action
import EdgeWorker.Cache.Error

/-!
Stores of single values by key. Such a store has no transactions; writing several values so that
either all of them or none are written takes the old values back when something fails.
-/

namespace EdgeWorker.Cache.KeyValue

inductive Question where
  | get (key : String)
  | set (key : String) (value : Bytes)
  | delete (key : String)
  /-- Nothing, but that a value could not be taken back. -/
  | report (key : String) (e : Error)

abbrev Answer : Question → Type
  | .get _ => Except Error (Option Bytes)
  | .set _ _ => Except Error Unit
  | .delete _ => Except Error Unit
  | .report _ _ => Unit

/-- A computation over a store. -/
abbrev Steps := Action Question Answer

/-- A computation over a store that may fail. -/
abbrev Attempt := ExceptT Error Steps

def get (key : String) : Attempt (Option Bytes) := ExceptT.mk (Action.question (Question.get key))

def set (key : String) (value : Bytes) : Attempt Unit := ExceptT.mk (Action.question (Question.set key value))

def delete (key : String) : Attempt Unit := ExceptT.mk (Action.question (Question.delete key))

/-- Takes values back, one after another; a failure is reported and does not stop the others. -/
def restore : List (String × Option Bytes) → Steps Unit
  | [] => .done ()
  | (key, old) :: rest => do
    let result ← match old with
      | some value => (set key value).run
      | none => (delete key).run
    if let .error e := result then Action.question (Question.report key e)
    restore rest

/-- Sets values one after another, given the keys that were reached before with their old values,
last one first. -/
def setFrom (previous : List (String × Option Bytes)) :
    List (String × Bytes) → Steps (Except Error Unit)
  | [] => .done (.ok ())
  | (key, value) :: rest => do
    match ← (get key).run with
    | .error e =>
      restore previous
      return .error e
    | .ok old =>
      let previous := (key, old) :: previous
      match ← (set key value).run with
      | .error e =>
        restore previous
        return .error e
      | .ok () => setFrom previous rest

/-- Sets all values or none. -/
def setAll (pairs : List (String × Bytes)) : Attempt Unit := ExceptT.mk (setFrom [] pairs)

end EdgeWorker.Cache.KeyValue
