import EdgeWorker.Json.Printer
import EdgeWorker.Log.Level
import EdgeWorker.Template.View
import EdgeWorker.Text.Utf8

/-!
The helpers, and what values of arguments they are applied to. Some helpers make a value of their
arguments, the others decide how the bodies of a block are written.
-/

namespace EdgeWorker.Template

open EdgeWorker.Json

/-- Whether a value counts as true. Of the numbers, zero and those too small to have all their
digits do not, unless zero is to be included. -/
def isTruthy (includeZero : Bool) : Value → Bool
  | .null => false
  | .bool b => b
  | .int n => includeZero || n != 0
  | .double x => includeZero || x.isNormal
  | .string s => !s.isEmpty
  | .array items => !items.isEmpty
  | .object members => !members.isEmpty

mutual

/-- The text that a value has in a page. -/
def shown : Value → List Char
  | .null => []
  | .string s => s.toList
  | .array items => '[' :: shownItems items ++ [']']
  | .object _ => "[object]".toList
  | v => v.write

def shownItems : List Value → List Char
  | [] => []
  | v :: rest => shown v ++ ", ".toList ++ shownItems rest

end

inductive Order where
  | less
  | atMost
  | greater
  | atLeast
  deriving DecidableEq

def Order.holds : Order → Int → Int → Bool
  | .less, a, b => a < b
  | .atMost, a, b => a ≤ b
  | .greater, a, b => b < a
  | .atLeast, a, b => b ≤ a

inductive Helper where
  /-- Writes one body or the other. -/
  | test (positive : Bool)
  | each
  | enter
  | verbatim
  | log
  | lookup
  | same (positive : Bool)
  | compare (o : Order)
  | both
  | either
  | negate
  | size
  deriving DecidableEq

namespace Helper

def ofName? : String → Option Helper
  | "if" => some (.test true)
  | "unless" => some (.test false)
  | "each" => some .each
  | "with" => some .enter
  | "raw" => some .verbatim
  | "log" => some .log
  | "lookup" => some .lookup
  | "eq" => some (.same true)
  | "ne" => some (.same false)
  | "lt" => some (.compare .less)
  | "lte" => some (.compare .atMost)
  | "gt" => some (.compare .greater)
  | "gte" => some (.compare .atLeast)
  | "and" => some .both
  | "or" => some .either
  | "not" => some .negate
  | "len" => some .size
  | _ => none

def argument (name : String) (args : List Found) (i : Nat) : Except Fault Found :=
  match args[i]? with
  | some a => .ok a
  | none => .error (.missingArgument name)

/-- An argument that has to be an integer of 64 bits. -/
def integer (name : String) (args : List Found) (i : Nat) : Except Fault Int := do
  match (← argument name args i).get with
  | .int n => if n ≤ greatestSigned then return n else .error (.wrongArgument name)
  | _ => .error (.wrongArgument name)

/-- The item or the member of a collection, or null. -/
def item (collection index : Value) : Value :=
  match collection, index with
  | .array items, .int n => if n < 0 then .null else items[n.toNat]?.getD .null
  | .object members, .string s => (members.lookup s).getD .null
  | _, _ => .null

/-- The number of items or members, or of the bytes of a text. -/
def sizeOf : Value → Nat
  | .array items => items.length
  | .object members => members.length
  | .string s => (Text.bytes s).length
  | _ => 0

/-- What a helper makes of its arguments, if it makes a value. -/
def value? (name : String) (args : List Found) : Helper → Option (Except Fault Value)
  | .lookup => some do
    let collection ← argument name args 0
    return item collection.get (← argument name args 1).get
  | .same positive => some do
    let a ← argument name args 0
    return .bool ((a.get == (← argument name args 1).get) == positive)
  | .compare o => some do
    let a ← integer name args 0
    return .bool (o.holds a (← integer name args 1))
  | .both => some do
    let a ← argument name args 0
    let b ← argument name args 1
    return .bool (isTruthy false a.get && isTruthy false b.get)
  | .either => some do
    let a ← argument name args 0
    let b ← argument name args 1
    return .bool (isTruthy false a.get || isTruthy false b.get)
  | .negate => some do return .bool (!isTruthy false (← argument name args 0).get)
  | .size => some do return Value.nat (sizeOf (← argument name args 0).get)
  | _ => none

def option? (options : List (String × Found)) (name : String) : Option Value :=
  (options.reverse.lookup name).map Found.get

/-- Whether a helper that writes accepts its arguments. -/
def accepts (name : String) (args : List Found) (options : List (String × Found)) :
    Helper → Except Fault Unit
  | .test _ | .each | .enter => do let _ ← argument name args 0
  | .log =>
    match (option? options "level").bind Value.string? with
    | none => .ok ()
    | some level =>
      if Log.Level.all.any fun l => l.name == Ascii.lower level then .ok ()
      else .error (.wrongArgument name)
  | _ => .ok ()

end Helper

mutual

/-- What an argument stands for. A helper that writes stands for the empty text here, as it has no
body. -/
def Term.eval (v : View) : Term → Except Fault Found
  | .path p => v.find p
  | .literal j => .ok (.derived j)
  | .call name args options => do
    let args ← evalArgs v args
    let options ← evalOptions v options
    match Helper.ofName? name.text with
    | none => .error (.unknownHelper name.text)
    | some h => match h.value? name.text args with
      | some made => return .derived (← made)
      | none => do
        h.accepts name.text args options
        return .derived (.string "")

def evalArgs (v : View) : List Term → Except Fault (List Found)
  | [] => .ok []
  | t :: rest => do
    let found ← t.eval v
    return found :: (← evalArgs v rest)

def evalOptions (v : View) : List (String × Term) → Except Fault (List (String × Found))
  | [] => .ok []
  | (name, t) :: rest => do
    let found ← t.eval v
    return (name, found) :: (← evalOptions v rest)

end

def Head.name (v : View) : Head → Except Fault String
  | .named n => .ok n.text
  | .computed t => do return String.ofList (shown (← t.eval v).get)

/-- What a head stands for where no helper has its name. -/
def Head.eval (v : View) : Head → Except Fault Found
  | .named (.path p) => v.find p
  | .named (.word _) => .ok ⟨none, none⟩
  | .computed t => t.eval v

end EdgeWorker.Template
