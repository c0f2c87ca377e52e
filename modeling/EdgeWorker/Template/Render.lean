import EdgeWorker.Template.Helper

/-!
Rendering. A template is written into a page element by element. Bodies of blocks and partials are
rendered in turn. They may nest without end, as a partial may come to include itself, and then there
is no page. Here their depth is bounded, by more than there is ever memory for, and what nests deeper
ends in `tooDeep`.
-/

namespace EdgeWorker.Template

open EdgeWorker.Json

/-- A character that would be read as markup, written so that it is not. -/
def escapeChar (c : Char) : List Char :=
  match c with
  | '&' => "&amp;".toList
  | '<' => "&lt;".toList
  | '>' => "&gt;".toList
  | '"' => "&quot;".toList
  | '\'' => "&#x27;".toList
  | '=' => "&#x3D;".toList
  | '`' => "&#x60;".toList
  | c => [c]

/-- A text that is to be escaped or not. -/
def escape (escaped : Bool) (cs : List Char) : List Char :=
  if escaped then cs.flatMap escapeChar else cs

/-- A text with an indent after every line break but a last one. -/
def indentLines (indent : List Char) : List Char → List Char
  | [] => []
  | [c] => [c]
  | c :: rest => if c = '\n' then c :: indent ++ indentLines indent rest else c :: indentLines indent rest

/-- The state of rendering: the levels, the partials that templates have defined for themselves,
the blocks given to partials and which of them is meant, the template that is being written, the
indent, and the page so far. -/
structure Scene where
  levels : List Level
  defined : List (String × Template)
  given : List Template
  depth : Nat
  current : Option String
  indent : List Char
  page : String

def Scene.start : Scene := ⟨[.outermost], [], [], 0, none, [], ""⟩

/-- What rendering needs to know: the data, and the templates and partials by name. -/
structure Setting where
  data : Value
  registry : String → Option Template

/-- A step of rendering. -/
abbrev Rendering := StateT Scene (Except Fault)

namespace Rendering

variable {α : Type}

def view (s : Setting) : Rendering View := do return ⟨s.data, (← get).levels⟩

def ask (s : Setting) (f : View → Except Fault α) : Rendering α := do f (← view s)

def put (cs : List Char) : Rendering Unit :=
  modify fun scene => { scene with page := scene.page ++ String.ofList cs }

def write (cs : List Char) : Rendering Unit := do put (indentLines (← get).indent cs)

/-- Goes on within a level. -/
def within (level : Level) (action : Rendering Unit) : Rendering Unit := do
  modify fun scene => { scene with levels := level :: scene.levels }
  action
  modify fun scene => { scene with levels := scene.levels.tail }

/-- Goes on in another scene, from which only the page is kept. -/
def aside (change : Scene → Scene) (action : Rendering Unit) : Rendering Unit := do
  let scene ← get
  set (change scene)
  action
  let after ← get
  set { scene with page := after.page }

end Rendering

open Rendering

/-- How a body is rendered, as the template of a name or of none. -/
abbrev Body := Option String → Template → Rendering Unit

/-- A body that may be absent. -/
def optional (body : Body) : Option Template → Rendering Unit
  | some t => body none t
  | none => pure ()

/-! ### Helpers that write -/

/-- The level of a value: at its place if it is a part of the data. -/
def levelOf (place : Option (List String)) (value : Value) : Level :=
  match place with
  | some place => ⟨place, none, [], []⟩
  | none => ⟨[], some value, [], []⟩

/-- The names that a block gives to a value and to its index or name. -/
def bindNames (place : Option (List String)) (value : Value) (key : Option Value) :
    List String → List (String × Bound)
  | [item] => [(item, bound)]
  | [item, index] => (key.map fun k => (index, Bound.value k)).toList ++ [(item, bound)]
  | _ => []
where
  bound := if place.isSome then Bound.place else .value value

/-- The level of an item of a collection. -/
def itemLevel (place : Option (List String)) (names : List String) (counter : String) (key : Value)
    (name : String) (value : Value) (first last : Bool) : Level :=
  let place := place.map (· ++ [name])
  { levelOf place value with
    locals := [("first", .bool first), ("last", .bool last), (counter, key)]
    bound := bindNames place value (some key) names }

/-- The items of a collection, each with its name and with what stands for its name. -/
def itemsOf : Value → String × List (String × Value × Value)
  | .array items => ("index", items.zipIdx.map fun (v, i) => (toString i, Value.nat i, v))
  | .object members => ("key", members.map fun (k, v) => (k, .string k, v))
  | _ => ("", [])

/-- Writes the body once for every item. -/
def writeEach (body : Body) (f : Found) (names : List String) (t : Template) : Rendering Unit := do
  let (counter, items) := itemsOf f.get
  for ((name, key, value), i) in items.zipIdx do
    within (itemLevel f.place names counter key name value (i == 0) (i + 1 == items.length))
      (body none t)

/-- Writes what a helper makes of its arguments and the bodies of its block. -/
def Helper.write (body : Body) (name : String) (args : List Found) (options : List (String × Found))
    (names : List String) (escaped : Bool) (main other : Option Template) (h : Helper) :
    Rendering Unit := do
  match h.value? name args with
  | some made => put (escape escaped (shown (← made)))
  | none =>
    h.accepts name args options
    let first := args.head?.getD ⟨none, none⟩
    match h with
    | .test positive =>
      let includeZero := (option? options "includeZero").any fun v => v == .bool true
      optional body (if isTruthy includeZero first.get == positive then main else other)
    | .each => match main with
      | none => pure ()
      | some t => if (itemsOf first.get).2.isEmpty then optional body other else writeEach body first names t
    | .enter =>
      if isTruthy false first.get then
        let level := levelOf first.place first.get
        let bound := if names.length = 1 then bindNames first.place first.get none names else []
        within { level with bound } (optional body main)
      else optional body other
    | .verbatim => optional body main
    | _ => pure ()

def writeCall (s : Setting) (body : Body) (c : Call) (names : List String) (escaped : Bool)
    (main other : Option Template) : Rendering Unit := do
  let name ← ask s c.head.name
  let args ← ask s (evalArgs · c.args)
  let options ← ask s (evalOptions · c.options)
  match Helper.ofName? name with
  | some h => h.write body name args options names escaped main other
  | none => throw (.unknownHelper name)

def writeValue (s : Setting) (body : Body) (c : Call) (escaped : Bool) : Rendering Unit := do
  let name ← ask s c.head.name
  if c.isBare && (Helper.ofName? name).isNone then
    match (← ask s c.head.eval).value with
    | some v => write (escape escaped (shown v))
    | none => pure ()
  else writeCall s body c [] escaped none none

/-! ### Decorators and partials -/

/-- Carries out a decorator. The only one defines a partial for the page. -/
def decorate (s : Setting) (c : Call) (t : Option Template) : Rendering Unit := do
  let name ← ask s c.head.name
  let args ← ask s (evalArgs · c.args)
  let _ ← ask s (evalOptions · c.options)
  if name ≠ "inline" then throw (.unknownDecorator name)
  match args.head?, t with
  | some found, some t => match found.get with
    | .string partialName => modify fun scene => { scene with defined := (partialName, t) :: scene.defined }
    | _ => throw (.wrongArgument name)
  | _, _ => throw (.missingArgument name)

/-- Carries out the decorators of a block that is given to a partial. -/
def decorateAll (s : Setting) (t : Template) : Rendering Unit :=
  t.forM fun
    | .decorator c b => decorate s c b
    | _ => pure ()

/-- The name of the block that is given to a partial. -/
def givenName : String := "@partial-block"

/-- The template of an inclusion and the name it is rendered under: one that was defined for the
page, else one of the registry, else the block that comes with the inclusion. -/
def included (s : Setting) (scene : Scene) (name : String) (block : Option Template) :
    Option (Option String × Template) :=
  let local? := if name = givenName then scene.given[scene.depth]? else scene.defined.lookup name
  (local?.map (none, ·)) <|> ((s.registry name).map (some name, ·)) <|> (block.map (none, ·))

/-- The members of an object with some set to the values of options. -/
def mergeOptions (base : Value) (options : List (String × Found)) : Value :=
  let members := match base with
    | .object ms => ms
    | _ => []
  .object (options.foldl (fun ms (k, f) => Value.insertMember k f.get ms) members)

/-- The levels that a partial is rendered in. A part of the data as argument and options both
begin anew. -/
def includedLevels (data : Value) (levels : List Level) (args : List Found)
    (options : List (String × Found)) : Except Fault (List Level) := do
  let levels := match (args.head?.bind Found.place) with
    | some place => [⟨place, none, [], []⟩]
    | none => levels
  if options.isEmpty then return levels
  let level := levels.head?.getD .outermost
  let base ← (View.mk data [level]).fromLevel (some level) []
  return [{ level with value := some (mergeOptions base.get options) }]

/-- Writes what a name stands for. A partial that is not there leaves nothing. -/
def writeIncluded (s : Setting) (body : Body) (name : String) (args : List Found)
    (options : List (String × Found)) (indent : List Char) (block : Option Template) : Rendering Unit := do
  let scene ← get
  if scene.current = some name then throw (.includesItself name)
  match included s scene name block with
  | none => pure ()
  | some (title, t) =>
    let levels ← includedLevels s.data scene.levels args options
    aside (fun scene => { scene with
      levels
      depth := if name = givenName then scene.depth + 1 else scene.depth - 1
      given := block.toList ++ scene.given
      indent }) (body title t)

def writeInclusion (s : Setting) (body : Body) (c : Call) (indent : List Char) (block : Option Template) :
    Rendering Unit := do
  let name ← ask s c.head.name
  let args ← ask s (evalArgs · c.args)
  let options ← ask s (evalOptions · c.options)
  if let some t := block then decorateAll s t
  writeIncluded s body name args options indent block

/-! ### Elements -/

def Element.write (s : Setting) (body : Body) : Element → Rendering Unit
  | .text cs => Rendering.write cs
  | .value c escaped => writeValue s body c escaped
  | .block c names main other => writeCall s body c names true (some main) other
  | .decorator c t => decorate s c t
  | .include c indent t => writeInclusion s body c indent t

/-- Writes a template that nests at most so deep. Rendering has no bound of its own: `tooDeep` stands
for no page at all. -/
def writeTo (s : Setting) : Nat → Body
  | 0 => fun _ _ => throw .tooDeep
  | depth + 1 => fun title t => do
    modify fun scene => { scene with current := title }
    t.forM (Element.write s (writeTo s depth))

/-- The depth that every template is given: more than there is ever memory for. -/
def maxNesting : Nat := 1000000000

/-- The page of a template of the registry. -/
def render (s : Setting) (name : String) (t : Template) : Except Fault String := do
  let ((), scene) ← (writeTo s maxNesting (some name) t).run .start
  return scene.page

end EdgeWorker.Template
