import EdgeWorker.Json.Basic

/-!
Templates. A template is a row of elements: plain text, values to be written, blocks with a helper
that decides how their bodies are written, decorators, and inclusions of partials.
-/

namespace EdgeWorker

namespace Template

open EdgeWorker.Json

/-- A step of a path through the data. -/
inductive Step where
  /-- To the whole of the data. -/
  | root
  /-- To the variables of the block. -/
  | locals
  /-- To the block around. -/
  | up
  /-- To a member or an item. -/
  | name (s : String)
  deriving DecidableEq, Repr

/-- A path through the data, and how it is written. -/
structure Path where
  text : String
  steps : List Step
  deriving DecidableEq, Repr

/-- What is named, by a plain name or by a path. -/
inductive Name where
  | word (s : String)
  | path (p : Path)

def Name.text : Name → String
  | .word s => s
  | .path p => p.text

/-- What may stand as an argument. -/
inductive Term where
  | path (p : Path)
  | literal (v : Value)
  /-- A helper with its arguments and its options. -/
  | call (name : Name) (args : List Term) (options : List (String × Term))
  deriving Inhabited

/-- What stands at the head of a tag. -/
inductive Head where
  | named (n : Name)
  /-- The name is what a call in parentheses makes. -/
  | computed (t : Term)

/-- The head of a tag with the arguments and the options that follow. -/
structure Call where
  head : Head
  args : List Term
  options : List (String × Term)

/-- Whether nothing follows the head. -/
def Call.isBare (c : Call) : Bool := c.args.isEmpty && c.options.isEmpty

inductive Element where
  | text (cs : List Char)
  /-- A value, or what a helper makes of its arguments. -/
  | value (call : Call) (escaped : Bool)
  /-- A block: names for its items, its body and what stands after `else`. -/
  | block (call : Call) (names : List String) (body : List Element) (otherwise : Option (List Element))
  | decorator (call : Call) (body : Option (List Element))
  /-- A partial, the indent of its lines and the block that it is given. -/
  | include (call : Call) (indent : List Char) (body : Option (List Element))
  deriving Inhabited

end Template

/-- The elements of a compiled source. -/
abbrev Template := List Template.Element

end EdgeWorker
