import EdgeWorker.Json.Printer

/-!
JSON texts laid out over lines: every item and every member has a line of its own, two blanks
further in than what it belongs to.
-/

namespace EdgeWorker.Json

/-- What is laid out. The members of an object keep the order in which they are given. -/
inductive Layout where
  | leaf (text : List Char)
  | array (items : List Layout)
  | object (members : List (String × Layout))

namespace Layout

def string (s : String) : Layout := .leaf (quote s)

/-- A string, or null. -/
def string? (s : Option String) : Layout := .leaf (quote? s)

def strings (ss : List String) : Layout := .array (ss.map string)

mutual

def ofValue : Value → Layout
  | .array items => .array (ofItems items)
  | .object members => .object (ofMembers members)
  | v => .leaf v.write

def ofItems : List Value → List Layout
  | [] => []
  | v :: rest => ofValue v :: ofItems rest

def ofMembers : List (String × Value) → List (String × Layout)
  | [] => []
  | (k, v) :: rest => (k, ofValue v) :: ofMembers rest

end

/-- A new line that begins at a depth. -/
def line (depth : Nat) : List Char := '\n' :: List.replicate (2 * depth) ' '

/-- Pieces on lines of their own at a depth, between two marks; only the marks if there are none. -/
def enclose (depth : Nat) (opening closing : Char) : List (List Char) → List Char
  | [] => [opening, closing]
  | pieces => opening :: commas (pieces.map (line (depth + 1) ++ ·)) ++ line depth ++ [closing]

mutual

def write (depth : Nat) : Layout → List Char
  | leaf text => text
  | array items => enclose depth '[' ']' (writeItems (depth + 1) items)
  | object members => enclose depth '\x7b' '\x7d' (writeMembers (depth + 1) members)

def writeItems (depth : Nat) : List Layout → List (List Char)
  | [] => []
  | l :: rest => write depth l :: writeItems depth rest

def writeMembers (depth : Nat) : List (String × Layout) → List (List Char)
  | [] => []
  | (k, l) :: rest => (quote k ++ [':', ' '] ++ write depth l) :: writeMembers depth rest

end

def text (l : Layout) : String := String.ofList (l.write 0)

end Layout
end EdgeWorker.Json
