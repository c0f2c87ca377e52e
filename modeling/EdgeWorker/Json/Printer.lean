import EdgeWorker.Json.Basic

/-!
The compact text of a JSON value. Only the quote, the backslash and the controls are escaped.
-/

namespace EdgeWorker.Json

open EdgeWorker.Decimal

def hexDigit (n : Nat) : Char := (Nat.digitChar n)

/-- A character within a string. -/
def escape (c : Char) : List Char :=
  if c = '"' then ['\\', '"']
  else if c = '\\' then ['\\', '\\']
  else if c = '\x08' then ['\\', 'b']
  else if c = '\t' then ['\\', 't']
  else if c = '\n' then ['\\', 'n']
  else if c = '\x0c' then ['\\', 'f']
  else if c = '\r' then ['\\', 'r']
  else if c.toNat < 0x20 then ['\\', 'u', '0', '0', hexDigit (c.toNat / 16), hexDigit (c.toNat % 16)]
  else [c]

/-- The literal of a string. -/
def quote (s : String) : List Char := '"' :: s.toList.flatMap escape ++ ['"']

def writeInt (n : Int) : List Char :=
  if n < 0 then '-' :: digits n.natAbs else digits n.natAbs

/-- The pieces with a comma between any two. -/
def commas : List (List Char) → List Char
  | [] => []
  | [piece] => piece
  | piece :: rest => piece ++ ',' :: commas rest

/-- A member from the text of its value. -/
def writeMember (key : String) (value : List Char) : List Char := quote key ++ ':' :: value

/-- An object from its members. -/
def braces (members : List (List Char)) : List Char := '{' :: commas members ++ ['}']

/-- An array from its items. -/
def brackets (items : List (List Char)) : List Char := '[' :: commas items ++ [']']

mutual

def Value.write : Value → List Char
  | .null => ['n', 'u', 'l', 'l']
  | .bool true => ['t', 'r', 'u', 'e']
  | .bool false => ['f', 'a', 'l', 's', 'e']
  | .int n => writeInt n
  | .double x => x.write
  | .string s => quote s
  | .array items => brackets (writeItems items)
  | .object members => braces (writeMembers members)

def writeItems : List Value → List (List Char)
  | [] => []
  | v :: rest => v.write :: writeItems rest

def writeMembers : List (String × Value) → List (List Char)
  | [] => []
  | (k, v) :: rest => writeMember k v.write :: writeMembers rest

end

def Value.text (v : Value) : String := String.ofList v.write

/-- An object whose members keep the order in which they are given. -/
def record (members : List (String × List Char)) : List Char :=
  braces (members.map fun (k, v) => writeMember k v)

/-- The literal of a string, or null. -/
def quote? : Option String → List Char
  | some s => quote s
  | none => Value.write .null

end EdgeWorker.Json
