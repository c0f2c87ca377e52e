import EdgeWorker.Ascii
import EdgeWorker.Json.Tree
import EdgeWorker.Template.Basic
import EdgeWorker.Text.Search

/-!
The tags of a template and how they are read. Of several readings the first that fits is taken, and
a reading that was taken is never given up for another one later. Blanks may stand between the
parts of a tag, but not within names, paths, numbers and strings.
-/

namespace EdgeWorker.Template

open EdgeWorker.Json

/-- A tag by what it does. -/
inductive Tag where
  | value (call : Call) (escaped : Bool)
  | openBlock (call : Call) (names : List String)
  | decorator (call : Call)
  | openDecorator (call : Call)
  | include (call : Call)
  | openInclude (call : Call)
  | otherwise
  /-- The end of a block, and whether its name may end a block other than an inclusion. -/
  | close (name : String) (plain : Bool)
  | comment

/-- A place in a text: what is to be read, and whether all literals before it had a value. -/
structure Cursor where
  rest : List Char
  sound : Bool

/-- Reads at a place, or does not fit there. -/
abbrev Reader := StateT Cursor Option

namespace Reader

variable {α : Type}

/-- Changes what is to be read. -/
def move (f : List Char → Option (List Char)) : Reader Unit := fun place =>
  (f place.rest).map fun rest => ((), { place with rest })

def mark (m : String) : Reader Unit := move (Text.after? m.toList)

def blanks : Reader Unit := move fun text => some (text.dropWhile (" \t\n\r".toList.contains ·))

/-- Reads a character of one class and those of another class after it. -/
def span (first more : Char → Bool) : Reader String := fun place =>
  match place.rest with
  | c :: rest =>
    if first c then
      some (String.ofList (c :: rest.takeWhile more), { place with rest := rest.dropWhile more })
    else none
  | [] => none

/-- Reads the characters of a class. -/
def some? (p : Char → Bool) : Reader Unit := move fun text => some (text.dropWhile p)

def maybe (read : Reader α) : Reader Bool := (do let _ ← read; return true) <|> return false

def absent (read : Reader α) : Reader Unit := fun place =>
  if (read place).isSome then none else some ((), place)

/-- Reads again and again, as long as it fits and takes something. -/
def manyFrom (read : Reader α) (place : Cursor) : List α × Cursor :=
  match read place with
  | some (a, next) =>
    if next.rest.length < place.rest.length then
      let (as, last) := manyFrom read next
      (a :: as, last)
    else ([], place)
  | none => ([], place)
termination_by place.rest.length

def many (read : Reader α) : Reader (List α) := fun place => some (manyFrom read place)

/-- The characters that a reading takes. -/
def taken (read : Reader α) : Reader (α × List Char) := fun place =>
  (read place).map fun (a, next) => ((a, place.rest.take (place.rest.length - next.rest.length)), next)

end Reader

open Reader

/-! ### Names and paths -/

def isSymbol (c : Char) : Bool := Ascii.isAlphanumeric c || "_-$".toList.contains c || 0x80 ≤ c.toNat

/-- The name of a helper. -/
def identifier : Reader String := span isSymbol fun c => isSymbol c || c == '/'

def isPartialSymbol (c : Char) : Bool := isSymbol c || c == '/' || c == '.'

/-- The name of a partial; quotes belong to the name. -/
def partialName : Reader String :=
  span isPartialSymbol isPartialSymbol <|> do
    let (_, cs) ← taken do
      mark "'"
      let _ ← span (· != '\'') (· != '\'')
      mark "'"
    return String.ofList cs

/-- The mark between the steps of a path. -/
def separator : Reader Unit := mark "/" <|> mark "."

/-- A name in a path; a name in brackets may hold anything else. -/
def item : Reader Step :=
  (do return .name (← span isSymbol isSymbol)) <|> do
    mark "["
    let (_, cs) ← taken (some? (· != ']'))
    mark "]"
    return .name (String.ofList cs)

/-- A path. The name `this` is no step. -/
def path : Reader Path := do
  let (steps, cs) ← taken do
    let _ ← maybe ((mark "this" *> separator) <|> mark "./")
    let root ← maybe (mark "@root" *> separator)
    let inner ← maybe (mark "@")
    let ups ← many (mark ".." *> separator)
    let first ← item
    let more ← many (separator *> item)
    let names := (first :: more).filter (· ≠ .name "this")
    return (if root then [.root] else []) ++ (if inner then [.locals] else [])
      ++ ups.map (fun _ => Step.up) ++ names
  return ⟨String.ofList cs, steps⟩

/-! ### Literals -/

/-- A word that no other name begins with. -/
def keyword (w : String) : Reader Unit := mark w *> absent (span isSymbol isSymbol)

def digits : Reader Unit := do let _ ← span Ascii.isDigit Ascii.isDigit

def number : Reader Unit := do
  let _ ← maybe (mark "-")
  digits
  let _ ← maybe (mark ".")
  some? Ascii.isDigit
  let _ ← maybe (mark "E" *> maybe (mark "-") *> digits)
  absent (span isSymbol isSymbol)

/-- What a string holds up to the closing quote or the first escape that is none. -/
def dropInner (quote : Char) : List Char → List Char
  | '\\' :: 'u' :: a :: b :: c :: d :: rest =>
    if [a, b, c, d].all fun x => (Ascii.hexValue? x).isSome then dropInner quote rest
    else '\\' :: 'u' :: a :: b :: c :: d :: rest
  | '\\' :: c :: rest =>
    if c == quote || "\\/bfnrt".toList.contains c then dropInner quote rest else '\\' :: c :: rest
  | c :: rest => if c == quote || c == '\\' then c :: rest else dropInner quote rest
  | [] => []

def quoted (quote : Char) : Reader (List Char) := do
  mark (String.singleton quote)
  let (_, cs) ← taken (move fun text => some (dropInner quote text))
  mark (String.singleton quote)
  return cs

def string : Reader Unit := do let _ ← quoted '"' <|> quoted '\''

/-- A literal that nests at most so deep. -/
def literalTo : Nat → Reader Unit
  | 0 => failure
  | depth + 1 =>
    let next := mark "," *> blanks *> literalTo depth
    let member := string *> blanks *> mark ":" *> blanks *> literalTo depth
    let array := do
      mark "[" *> blanks
      let _ ← maybe (literalTo depth)
      let _ ← many (blanks *> next)
      blanks *> mark "]"
    let object := do
      mark "\x7b" *> blanks
      let _ ← maybe member
      let _ ← many (blanks *> mark "," *> blanks *> member)
      blanks *> mark "\x7d"
    string <|> array <|> object <|> number <|> keyword "null" <|> keyword "true" <|> keyword "false"

/-- A text in single quotes as a literal in double ones. -/
def requote : List Char → List Char
  | '\\' :: '\'' :: rest => '\'' :: requote rest
  | '"' :: rest => '\\' :: '"' :: requote rest
  | c :: rest => c :: requote rest
  | [] => []

/-- A literal with its value. One that has none fits too, and makes what is read unsound. -/
def literal (depth : Nat) : Reader Term := do
  let (_, cs) ← taken (literalTo depth)
  let cs := match cs with
    | '\'' :: inner => '"' :: requote inner.dropLast ++ ['"']
    | _ => cs
  match Value.ofText? (String.ofList cs) with
  | some v => return .literal v
  | none =>
    modify fun place => { place with sound := false }
    return .literal .null

/-! ### Calls -/

/-- An argument, given what a call in parentheses is. -/
def argument (depth : Nat) (nested : Reader Term) : Reader Term := do
  absent ((mark "as" <|> mark "else") *> blanks *> absent (span isSymbol isSymbol))
  literal depth <|> (do return .path (← path)) <|> nested

/-- An argument, or an option with its name. -/
def argumentOrOption (depth : Nat) (nested : Reader Term) : Reader (Option String × Term) :=
  (do
    let name ← identifier
    blanks *> mark "=" *> blanks
    return (some name, ← argument depth nested)) <|> do
  return (none, ← argument depth nested)

def argsOf (parts : List (Option String × Term)) : List Term :=
  parts.filterMap fun (name, t) => if name.isNone then some t else none

def optionsOf (parts : List (Option String × Term)) : List (String × Term) :=
  parts.filterMap fun (name, t) => name.map (·, t)

/-- What follows a name: arguments and options in any order. -/
def parts (depth : Nat) (nested : Reader Term) : Reader (List (Option String × Term)) :=
  many (blanks *> argumentOrOption depth nested)

/-- A plain name with at least one argument or option. -/
def application (depth : Nat) (nested : Reader Term) : Reader (String × List (Option String × Term)) := do
  let name ← identifier
  let given ← parts depth nested
  if given.isEmpty then failure
  return (name, given)

/-- A call in parentheses that nests at most so deep. -/
def nestedTo : Nat → Reader Term
  | 0 => failure
  | depth + 1 => do
    mark "(" *> blanks
    let t ← (do
      let (name, given) ← application depth (nestedTo depth)
      return .call (.word name) (argsOf given) (optionsOf given))
        <|> (do return .call (.path (← path)) [] [])
    blanks *> mark ")"
    return t

def head (depth : Nat) : Reader Head :=
  (do return .computed (← nestedTo depth)) <|> (do return .named (.path (← path)))

/-- What a tag without a sign holds. -/
def expression (depth : Nat) : Reader Call :=
  (do
    let (name, given) ← application depth (nestedTo depth)
    return ⟨.named (.word name), argsOf given, optionsOf given⟩)
    <|> (do return ⟨← head depth, [], []⟩)

/-- A head and what follows it. -/
def line (depth : Nat) (first : Reader Head) : Reader Call := do
  let h ← first
  let given ← parts depth (nestedTo depth)
  return ⟨h, argsOf given, optionsOf given⟩

/-- The line of a block. -/
def blockLine (depth : Nat) : Reader Call := line depth do return .named (.word (← identifier))

/-- The line of an inclusion. -/
def includeLine (depth : Nat) : Reader Call :=
  line depth ((do return .named (.word (← partialName))) <|> head depth)

/-- The names that a block gives to its items. -/
def itemNames : Reader (List String) := do
  mark "as" *> blanks *> mark "|" *> blanks
  let first ← identifier
  let second ← (do blanks; return [← identifier]) <|> return []
  blanks *> mark "|"
  return first :: second

/-- The line of a block with the names that it gives. -/
def namingLine (depth : Nat) : Reader (Call × List String) := do
  let c ← blockLine depth
  let names ← (blanks *> itemNames) <|> return []
  return (c, names)

/-! ### Tags -/

/-- A tag, and whether it takes away the blanks before and after it. -/
structure Placed where
  tag : Tag
  before : Bool
  after : Bool

/-- A tag between its braces. -/
def between (opening : String) (read : Reader Tag) (closing : String) : Reader Placed := do
  mark opening *> blanks
  let before ← maybe (mark "~")
  let tag ← blanks *> read
  let after ← blanks *> maybe (mark "~")
  blanks *> mark closing
  return ⟨tag, before, after⟩

def opening : String := "\x7b\x7b"

def closing : String := "\x7d\x7d"

/-- A tag in two pairs of braces. -/
def inBraces (read : Reader Tag) : Reader Placed := between opening read closing

/-- The tag between the two bodies of a block. -/
def otherwiseTag : Reader Placed := inBraces ((mark "else" <|> mark "^") *> pure .otherwise)

/-- A tag that is not to be escaped. -/
def rawValue (depth : Nat) : Reader Placed :=
  let verbatim := do return .value (← expression depth) false
  between (opening ++ "\x7b") verbatim (closing ++ "\x7d")
    <|> inBraces (mark "\x7b" *> blanks *> verbatim <* blanks <* mark "\x7d")
    <|> inBraces (mark "&" *> blanks *> (do return .value ⟨← head depth, [], []⟩ false))

/-- A comment. One that begins with two hyphens ends at two hyphens, if there are any. -/
def comment : Reader Placed := do
  mark (opening ++ "!")
  (blanks *> mark "--" *> move (Text.dropThrough? ("--" ++ closing).toList))
    <|> move (Text.dropThrough? closing.toList)
  return ⟨.comment, false, false⟩

def closeTag : Reader Placed :=
  inBraces (mark "/" *> blanks *> (do return .close (← identifier) true))
    <|> inBraces (mark "/" *> blanks *> (do return .close (← partialName) false))

def tag (depth : Nat) : Reader Placed :=
  otherwiseTag
    <|> inBraces (do return .value (← expression depth) true)
    <|> rawValue depth
    <|> inBraces (mark "#" *> blanks *> (do let (c, names) ← namingLine depth; return .openBlock c names))
    <|> inBraces (mark "*" *> blanks *> (do let (c, _) ← namingLine depth; return .decorator c))
    <|> inBraces (mark "#" *> blanks *> mark "*" *> blanks
          *> (do let (c, _) ← namingLine depth; return .openDecorator c))
    <|> comment
    <|> inBraces (mark ">" *> blanks *> (do return .include (← includeLine depth)))
    <|> inBraces (mark "#" *> blanks *> mark ">" *> blanks
          *> (do return .openInclude (← includeLine depth)))
    <|> closeTag

/-- The line that begins a block whose body is kept as it is. -/
def verbatimStart (depth : Nat) : Reader Placed :=
  between (opening ++ opening) (do let (c, names) ← namingLine depth; return .openBlock c names)
    (closing ++ closing)

def verbatimEnd : Reader Placed :=
  between (opening ++ opening) (mark "/" *> blanks *> (do return .close (← identifier) true))
    (closing ++ closing)

end EdgeWorker.Template
