import EdgeWorker.Text.Search

/-!
The arguments of the command line. A command has options, which may stand anywhere behind its name,
operands, and commands below it; the arguments are read one after another.
-/

namespace EdgeWorker.Cli

/-- An option: its letter, its name, and whether a value belongs to it. -/
structure Flag where
  letter : Option Char
  name : String
  valued : Bool

/-- What may be written for a command: its options, the greatest number of its operands, and the
commands below it. -/
structure Shape where
  name : String
  flags : List Flag
  operands : Nat
  commands : List Shape

namespace Shape

/-- The options of every command. -/
def common : List Flag :=
  [⟨some 'v', "verbose", false⟩, ⟨none, "json", false⟩, ⟨some 'c', "config", true⟩,
   ⟨some 'h', "help", false⟩, ⟨some 'V', "version", false⟩]

/-- A command with the common options and some of its own. -/
def command (name : String) (flags : List Flag) (operands : Nat) (commands : List Shape) : Shape :=
  ⟨name, common ++ flags, operands, commands⟩

/-- The whole command line. -/
def whole : Shape :=
  command "hx" [] 0
    [command "routes" [⟨none, "origin", true⟩, ⟨none, "base-path", true⟩] 1 [],
     command "rpc" [⟨some 'p', "params", true⟩] 2 [],
     command "config" [] 0 [command "show" [] 0 [], command "check" [] 1 []]]

def named? (s : Shape) (name : String) : Option Flag := s.flags.find? (·.name == name)

def lettered? (s : Shape) (letter : Char) : Option Flag := s.flags.find? (·.letter == some letter)

end Shape

/-- What is shown instead of running a command. -/
inductive Stop where
  /-- The arguments cannot be understood. -/
  | misuse
  | help
  /-- The version of a program. -/
  | version (program : String)
  deriving DecidableEq, Repr

/-- The arguments read so far. -/
structure Reading where
  shape : Shape
  /-- The names of the commands, outermost first. -/
  path : List String
  /-- The options that were given to the innermost command. -/
  here : List String
  /-- All options with their values, last one first. -/
  options : List (String × String)
  operands : List String
  /-- The option whose value comes next. -/
  awaiting : Option String
  /-- Whether only operands may follow. -/
  closed : Bool
  /-- Whether help was asked for, and only names of commands may follow. -/
  helping : Bool

namespace Reading

def start (s : Shape) : Reading := ⟨s, [], [], [], [], none, false, false⟩

/-- Takes an option with its value. A command takes every option once. -/
def give (r : Reading) (name value : String) : Except Stop Reading :=
  if name == "help" then .error .help
  else if name == "version" then .error (.version (String.intercalate "-" (Shape.whole.name :: r.path)))
  else if r.here.contains name then .error .misuse
  else .ok { r with here := name :: r.here, options := (name, value) :: r.options, awaiting := none }

/-- Reads an option by its name, with the value that is written behind it. -/
def long (r : Reading) (name : String) (value : Option String) : Except Stop Reading :=
  match r.shape.named? name, value with
  | none, _ => .error .misuse
  | some f, some v => if f.valued then r.give f.name v else .error .misuse
  | some f, none => if f.valued then .ok { r with awaiting := some f.name } else r.give f.name ""

/-- Reads options by their letters. The value of an option takes up all that follows. -/
def letters (r : Reading) : List Char → Except Stop Reading
  | [] => .ok r
  | c :: rest =>
    match r.shape.lettered? c with
    | none => .error .misuse
    | some f =>
      if f.valued then
        match rest with
        | [] => .ok { r with awaiting := some f.name }
        | '=' :: value => r.give f.name (String.ofList value)
        | value => r.give f.name (String.ofList value)
      else
        match r.give f.name "" with
        | .ok r => r.letters rest
        | .error stop => .error stop

/-- Reads the name of a command below the innermost one. -/
def descend? (r : Reading) (name : String) : Option Reading :=
  (r.shape.commands.find? (·.name == name)).map fun shape =>
    { r with shape, path := r.path ++ [name], here := [] }

def operand (r : Reading) (arg : String) : Except Stop Reading :=
  if r.operands.length < r.shape.operands then .ok { r with operands := r.operands ++ [arg] }
  else .error .misuse

/-- Whether an argument is written like an option. -/
def isOption : List Char → Bool
  | '-' :: _ :: _ => true
  | _ => false

/-- Reads an argument that is no value of an option. -/
def argument (r : Reading) (arg : String) : Except Stop Reading :=
  match r.descend? arg, arg.toList with
  | some below, _ => .ok below
  | none, ['-', '-'] => .ok { r with closed := true }
  | none, '-' :: '-' :: body =>
    match Text.cutAt ['='] body with
    | some (name, value) => r.long (String.ofList name) (some (String.ofList value))
    | none => r.long (String.ofList body) none
  | none, '-' :: c :: rest => r.letters (c :: rest)
  | none, _ =>
    if arg == "help" && !r.shape.commands.isEmpty then .ok { r with helping := true }
    else r.operand arg

def step (r : Reading) (arg : String) : Except Stop Reading :=
  if r.helping then
    match r.descend? arg with
    | some below => .ok below
    | none => .error .misuse
  else if r.closed then r.operand arg
  else match r.awaiting with
    | some name => if isOption arg.toList then .error .misuse else r.give name arg
    | none => r.argument arg

end Reading

inductive Command where
  /-- To list the routes of a manifest in a file. -/
  | routes (manifest : String) (origin basePath : Option String)
  /-- To call a method behind a path. -/
  | call (path method params : String)
  | showConfig
  /-- To check the configuration in a file, or else the one that is found. -/
  | checkConfig (path : Option String)
  deriving DecidableEq, Repr

/-- A command with the options that all commands have. -/
structure Invocation where
  verbose : Bool
  json : Bool
  config : Option String
  command : Command
  deriving DecidableEq, Repr

namespace Reading

def command (r : Reading) : Except Stop Command :=
  let value := fun name => r.options.lookup name
  match r.path, r.operands with
  | ["routes"], files => .ok (.routes (files.head?.getD "routes.json") (value "origin") (value "base-path"))
  | ["rpc"], [path, method] => .ok (.call path method ((value "params").getD "\x7b\x7d"))
  | ["config", "show"], _ => .ok .showConfig
  | ["config", "check"], files => .ok (.checkConfig files.head?)
  | _, _ => .error .misuse

/-- What was asked for, after the last argument. -/
def finish (r : Reading) : Except Stop Invocation :=
  if r.helping then .error .help
  else if r.awaiting.isSome then .error .misuse
  else
    let given := fun name => (r.options.lookup name).isSome
    r.command.map fun command => ⟨given "verbose", given "json", r.options.lookup "config", command⟩

end Reading

/-- What arguments ask for. -/
def Invocation.ofArguments (args : List String) : Except Stop Invocation :=
  match args.foldlM Reading.step (Reading.start Shape.whole) with
  | .ok r => r.finish
  | .error stop => .error stop

end EdgeWorker.Cli
