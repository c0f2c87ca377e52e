import EdgeWorker.Ascii
import EdgeWorker.Template.Basic

/-!
What the names in a template stand for. Each block opens a level, which moves the place in the data
that names start from and brings variables and names of its own.
-/

namespace EdgeWorker.Template

open EdgeWorker.Json

inductive Fault where
  /-- An item of an array is asked for by something that is no index. -/
  | notAnIndex (name : String)
  | unknownHelper (name : String)
  | unknownDecorator (name : String)
  | missingArgument (helper : String)
  | wrongArgument (helper : String)
  | unknownTemplate (name : String)
  | includesItself (name : String)
  /-- No fault of a template: rendering was cut off by the bound on its depth that makes it end. It
  would have gone on. -/
  | tooDeep
  deriving DecidableEq, Repr

def Fault.message : Fault → String
  | .notAnIndex name => s!"{name} is not an index"
  | .unknownHelper name => s!"helper {name} is not defined"
  | .unknownDecorator name => s!"decorator {name} is not defined"
  | .missingArgument helper => s!"an argument of {helper} is missing"
  | .wrongArgument helper => s!"an argument of {helper} has the wrong type"
  | .unknownTemplate name => s!"template {name} is not registered"
  | .includesItself name => s!"{name} includes itself"
  | .tooDeep => ""

/-- What a name for an item stands for: the place of its level, or a value. -/
inductive Bound where
  | place
  | value (v : Value)

/-- A level: the place that names start from, or the value if it is not a part of the data, the
variables, and the names for items. -/
structure Level where
  place : List String
  value : Option Value
  locals : List (String × Value)
  bound : List (String × Bound)

/-- The level of the data as a whole. -/
def Level.outermost : Level := ⟨[], none, [], []⟩

/-- A value, and its place if it is a part of the data. Nothing may be there at all. -/
structure Found where
  value : Option Value
  place : Option (List String)

namespace Found

/-- A value that is not a part of the data. -/
def derived (v : Value) : Found := ⟨some v, none⟩

def get (f : Found) : Value := f.value.getD .null

end Found

/-- The data and the levels, from the inside out. -/
structure View where
  data : Value
  levels : List Level

def index? (name : String) : Option Nat :=
  let ds := match name.toList with
    | '+' :: ds => ds
    | ds => ds
  if ds.isEmpty || !ds.all Ascii.isDigit then none
  else
    let n := ds.foldl (fun n c => n * 10 + (c.toNat - 0x30)) 0
    if n < 1 <<< 64 then some n else none

/-- What a name leads to from a value. -/
def stepInto (v : Value) (name : String) : Except Fault (Option Value) :=
  match v with
  | .array items => match index? name with
    | some i => .ok items[i]?
    | none => .error (.notAnIndex name)
  | .object members => .ok (members.lookup name)
  | _ => .ok none

/-- What names lead to, one after another. -/
def follow (v : Value) : List String → Except Fault (Option Value)
  | [] => .ok (some v)
  | name :: names => match stepInto v name with
    | .ok (some w) => follow w names
    | other => other

namespace View

/-- The value at a place in the data. -/
def atPlace (v : View) (place : List String) : Except Fault Found :=
  (follow v.data place).map fun value => ⟨value, if value.isSome then some place else none⟩

/-- What names lead to from a level. -/
def fromLevel (v : View) (level : Option Level) (names : List String) : Except Fault Found :=
  match level with
  | some ⟨_, some value, _, _⟩ => (follow value names).map fun value => ⟨value, none⟩
  | some ⟨place, none, _, _⟩ => v.atPlace (place ++ names)
  | none => v.atPlace names

/-- What a name for an item stands for, in the innermost level that has it, and its place. -/
def bound? (v : View) (name : String) : Option (Bound × List String) :=
  v.levels.findSome? fun level => (level.bound.lookup name).map (·, level.place)

def names (steps : List Step) : List String :=
  steps.filterMap fun
    | .name s => some s
    | _ => none

/-- What a path that is not one of a variable leads to. -/
def relative (v : View) (steps : List Step) : Except Fault Found :=
  let ups := steps.takeWhile (· = .up)
  let rest := steps.drop ups.length
  let item : Option (Bound × List String × List String) := match rest with
    | .name s :: more => (v.bound? s).map fun (bound, place) => (bound, place, names more)
    | _ => none
  match item with
  | some (.value value, _, more) => (follow value more).map fun value => ⟨value, none⟩
  | some (.place, place, more) => v.atPlace (place ++ more)
  | none =>
    if !ups.isEmpty then v.fromLevel (v.levels[ups.length]? <|> v.levels.head?) (names steps)
    else if steps.head? = some Step.root then v.atPlace (names steps)
    else v.fromLevel v.levels.head? (names steps)

def find (v : View) (p : Path) : Except Fault Found :=
  match p.steps with
  | .locals :: steps =>
    let ups := steps.takeWhile (· = .up)
    match steps.drop ups.length with
    | .name s :: _ => .ok ⟨v.levels[ups.length]?.bind fun level => level.locals.lookup s, none⟩
    | _ => v.relative p.steps
  | _ => v.relative p.steps

end View
end EdgeWorker.Template
