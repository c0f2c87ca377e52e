import EdgeWorker.Toml.Basic
import EdgeWorker.Toml.Lexical

/-!
Reading TOML documents line by line: keys with their values, and the headers of tables.
-/

namespace EdgeWorker.Toml

/-- The characters of keys without quotes. -/
def isKeyChar (c : Char) : Bool := Ascii.isAlphanumeric c || c == '_' || c == '-'

def readPart (cs : List Char) : Read String :=
  match cs with
  | '"' :: '"' :: '"' :: _ | '\'' :: '\'' :: '\'' :: _ => none
  | '"' :: _ | '\'' :: _ => readString cs
  | cs =>
    let part := cs.takeWhile isKeyChar
    if part.isEmpty then none else some (String.ofList part, cs.drop part.length)

/-- A key: the parts before the last one, and the last one. -/
def readKey : Nat → List Char → Read (List String × String)
  | 0, _ => none
  | steps + 1, cs =>
    match readPart (skipBlanks cs) with
    | none => none
    | some (part, rest) =>
      match skipBlanks rest with
      | '.' :: more =>
        (readKey steps more).map fun ((path, key), rest) => ((part :: path, key), rest)
      | rest => some (([], part), rest)

/-- The greatest number of parts of a key and of values within each other. -/
def maxDepth : Nat := 80

/-- A key of not too many parts. -/
def readKeyPath (cs : List Char) : Read (List String × String) := readKey (maxDepth - 1) cs

mutual

/-- A value with at most so many values around it. -/
def readItem : Nat → Nat → List Char → Read Item
  | 0, _, _ => none
  | fuel + 1, depth, cs =>
    match cs with
    | '"' :: _ | '\'' :: _ => (readString cs).map fun (s, rest) => (.string s, rest)
    | '[' :: rest =>
      match depth with
      | 0 => none
      | depth + 1 => (readItems fuel depth rest).map fun (items, rest) => (.array items, rest)
    | '{' :: rest =>
      match depth with
      | 0 => none
      | depth + 1 =>
        match skipBlanks rest with
        | '}' :: rest => some (.table .closed [], rest)
        | _ => (readEntries fuel depth [] rest).map fun (es, rest) => (.table .closed es, rest)
    | cs => (readScalarItem cs).map fun (_, rest) => (.scalar, rest)

/-- The items of an array, after its bracket or a comma. -/
def readItems : Nat → Nat → List Char → Read (List Item)
  | 0, _, _ => none
  | fuel + 1, depth, cs =>
    match skipLines (cs.length + 1) cs with
    | ']' :: rest => some ([], rest)
    | cs =>
      match readItem fuel depth cs with
      | none => none
      | some (item, rest) =>
        match skipLines (rest.length + 1) rest with
        | ']' :: rest => some ([item], rest)
        | ',' :: rest => (readItems fuel depth rest).map fun (items, rest) => (item :: items, rest)
        | _ => none

/-- The entries of a table in braces, after its brace or a comma. -/
def readEntries : Nat → Nat → Entries → List Char → Read Entries
  | 0, _, _, _ => none
  | fuel + 1, depth, entries, cs =>
    match readKeyPath cs with
    | some ((path, key), '=' :: rest) =>
      match readItem fuel depth (skipBlanks rest) with
      | none => none
      | some (item, rest) =>
        match assign path key item .header entries with
        | none => none
        | some (_, entries) =>
          match skipBlanks rest with
          | '}' :: rest => some (entries, rest)
          | ',' :: rest => readEntries fuel depth entries rest
          | _ => none
    | _ => none

end

/-- A document read in part: what it holds, and the path of the table that keys are put into. -/
structure State where
  entries : Entries
  table : List String

/-- The entries after a change. -/
def State.change (s : State) (c : Change) : Option Entries := (c .header s.entries).map Prod.snd

/-- Reads what stands in one line, if anything does, up to its comment. -/
def readLine (s : State) (cs : List Char) : Option (State × List Char) :=
  match skipBlanks cs with
  | '[' :: '[' :: rest =>
    match readKeyPath rest with
    | some ((path, key), ']' :: ']' :: rest) =>
      (s.change (beginRow path key)).map fun es => (⟨es, path ++ [key]⟩, rest)
    | _ => none
  | '[' :: rest =>
    match readKeyPath rest with
    | some ((path, key), ']' :: rest) =>
      (s.change (beginTable path key)).map fun es => (⟨es, path ++ [key]⟩, rest)
    | _ => none
  | cs =>
    if cs.isEmpty || cs.head? == some '#' || (lineBreak? cs).isSome then some (s, cs)
    else match readKeyPath cs with
      | some ((path, key), '=' :: rest) =>
        match readItem (rest.length + 1) (maxDepth - 1) (skipBlanks rest) with
        | none => none
        | some (item, rest) =>
          (s.change (within false (assign path key item) s.table)).map fun es =>
            ({ s with entries := es }, rest)
      | _ => none

def readLines : Nat → State → List Char → Option Entries
  | 0, _, _ => none
  | steps + 1, s, cs =>
    match readLine s cs with
    | none => none
    | some (s, rest) =>
      match skipComment (skipBlanks rest) with
      | [] => some s.entries
      | rest =>
        match lineBreak? rest with
        | some rest => readLines steps s rest
        | none => none

/-- The entries of a document. A mark of byte order may stand before it. -/
def ofText? (text : String) : Option Entries :=
  let cs := match text.toList with
    | '\uFEFF' :: rest => rest
    | cs => cs
  readLines (cs.length + 1) ⟨[], []⟩ cs

end EdgeWorker.Toml
