import EdgeWorker.Decimal.Shortest

/-!
JSON values. The members of an object are kept in the order of their names, each name once, so
that two objects with the same members are the same value.
-/

namespace EdgeWorker.Json

open EdgeWorker.Decimal

/-- A JSON value. Integers are kept apart from all other numbers. -/
inductive Value where
  | null
  | bool (b : Bool)
  | int (n : Int)
  | double (x : Double)
  | string (s : String)
  | array (items : List Value)
  | object (members : List (String × Value))
  deriving Inhabited, Repr

/-- The least of the integers of 64 bits with a sign. -/
def leastInt : Int := -0x8000000000000000

/-- The greatest of the integers of 64 bits with a sign. -/
def greatestSigned : Int := 0x7FFFFFFFFFFFFFFF

/-- The greatest of the integers of 64 bits without a sign. -/
def greatestInt : Int := 0xFFFFFFFFFFFFFFFF

namespace Value

/-- The members with one set: in its place by name, instead of one of the same name. -/
def insertMember (key : String) (value : Value) : List (String × Value) → List (String × Value)
  | [] => [(key, value)]
  | (k, v) :: rest =>
    if key = k then (key, value) :: rest
    else if key < k then (key, value) :: (k, v) :: rest
    else (k, v) :: insertMember key value rest

/-- The object of members given in any order; the last of a name wins. -/
def ofMembers (members : List (String × Value)) : Value :=
  .object (members.foldl (fun ms (k, v) => insertMember k v ms) [])

/-- The member of an object with a name. -/
def member? (key : String) : Value → Option Value
  | .object ms => ms.lookup key
  | _ => none

def string? : Value → Option String
  | .string s => some s
  | _ => none

def isNull : Value → Bool
  | .null => true
  | _ => false

def ofOption : Option Value → Value
  | some v => v
  | none => .null

def ofString? : Option String → Value
  | some s => .string s
  | none => .null

def nat (n : Nat) : Value := .int n

mutual

/-- Equality of values. The two zeros are equal, an integer and a double never are. -/
def same : Value → Value → Bool
  | .null, .null => true
  | .bool a, .bool b => a == b
  | .int a, .int b => a == b
  | .double a, .double b => a.same b
  | .string a, .string b => a == b
  | .array a, .array b => sameItems a b
  | .object a, .object b => sameMembers a b
  | _, _ => false

def sameItems : List Value → List Value → Bool
  | [], [] => true
  | a :: as, b :: bs => same a b && sameItems as bs
  | _, _ => false

def sameMembers : List (String × Value) → List (String × Value) → Bool
  | [], [] => true
  | (k, a) :: as, (l, b) :: bs => k == l && same a b && sameMembers as bs
  | _, _ => false

end

instance : BEq Value := ⟨same⟩

end Value
end EdgeWorker.Json
