import EdgeWorker.Json.Tree
import EdgeWorker.Json.Printer

/-!
Reading JSON text into types of their own. A record is read from an object by the names of its
members, or from an array by their order; members that it does not know are skipped unread.
-/

namespace EdgeWorker.Json

/-- Reads a part of a text that may hold at most so many containers within each other. -/
abbrev Reader (α : Type) := Nat → Tree → Option α

namespace Reader

variable {α β : Type}

def string : Reader String
  | _, .string s => s
  | _, _ => none

def value : Reader Value := Tree.value?

/-- An integer from `low` to `high`. -/
def int (low high : Int) : Reader Int
  | _, .number n =>
    match n.value? with
    | some (.int i) => if low ≤ i && i ≤ high then some i else none
    | _ => none
  | _, _ => none

/-- A value, or null for none. -/
def nullable (r : Reader α) : Reader (Option α)
  | _, .null => some none
  | depth, t => (r depth t).map some

def list (r : Reader α) : Reader (List α)
  | depth + 1, .array items => items.mapM (r depth)
  | _, _ => none

def pair (r : Reader α) (q : Reader β) : Reader (α × β)
  | depth + 1, .array [a, b] =>
    match r depth a, q depth b with
    | some a, some b => some (a, b)
    | _, _ => none
  | _, _ => none

/-- The members of an object in their order, repeated ones included. -/
def entries (r : Reader α) : Reader (List (String × α))
  | depth + 1, .object members => members.mapM fun (key, t) =>
    match key, r depth t with
    | some k, some v => some (k, v)
    | _, _ => none
  | _, _ => none

/-- One of several names, as a string or as the only member of an object, whose value is null. -/
def choice (choices : List (String × α)) : Reader α
  | _, .string (some s) => choices.lookup s
  | _ + 1, .object [(some s, .null)] => choices.lookup s
  | _, _ => none

/-- A part that must have a value as a whole before it is read. -/
def buffered (r : Reader α) : Reader α := fun depth t =>
  if (t.value? depth).isSome then r depth t else none

end Reader

/-- The members that a record has in a text, and how deep they may go. -/
structure Fields where
  /-- Whether they were found by their order. -/
  positional : Bool
  depth : Nat
  found : List (String × Tree)

namespace Fields

variable {α : Type}

/-- Takes the members of known names; none may be repeated, and every name must be a text. -/
def take? (names : List String) : List (Option String × Tree) → Option (List (String × Tree))
  | [] => some []
  | (none, _) :: _ => none
  | (some key, t) :: rest =>
    match take? names rest with
    | none => none
    | some found =>
      if !names.contains key then some found
      else if (found.lookup key).isSome then none
      else some ((key, t) :: found)

/-- The members of a record of these names. -/
def of? (names : List String) : Reader Fields
  | depth + 1, .object members => (take? names members).map fun found => ⟨false, depth, found⟩
  | depth + 1, .array items =>
    if items.length ≤ names.length then some ⟨true, depth, names.zip items⟩ else none
  | _, _ => none

def required (fs : Fields) (name : String) (r : Reader α) : Option α :=
  (fs.found.lookup name).bind (r fs.depth)

/-- A member that stands for `default` where it is missing. -/
def defaulted (fs : Fields) (name : String) (r : Reader α) (default : α) : Option α :=
  match fs.found.lookup name with
  | some t => r fs.depth t
  | none => some default

/-- A member that may be null, and may be missing where members are found by name. -/
def optional (fs : Fields) (name : String) (r : Reader α) : Option (Option α) :=
  match fs.found.lookup name with
  | some t => Reader.nullable r fs.depth t
  | none => if fs.positional then none else some none

end Fields

def Reader.ofBytes? {α : Type} (r : Reader α) (bytes : Bytes) : Option α :=
  (Tree.ofBytes? bytes).bind (r Tree.maxDepth)

def Reader.ofText? {α : Type} (r : Reader α) (text : String) : Option α :=
  r.ofBytes? (Text.bytes text)

end EdgeWorker.Json
