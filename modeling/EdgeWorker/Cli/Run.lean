import EdgeWorker.Cli.Arguments
import EdgeWorker.Cli.Task
import EdgeWorker.Route.Table
import EdgeWorker.Rpc.Invocation

/-!
The commands: listing the routes of a manifest, calling a method, and showing and checking
configurations. A configuration is taken from the file that is named, or else from the nearest file
with one of the usual names that holds one.
-/

namespace EdgeWorker.Cli

open EdgeWorker.Json

/-- What a command works with. -/
structure Context where
  style : Style
  directory : String
  /-- The configuration, and the file that it is from. -/
  config : Option (Config × String)

/-- The names of files with configurations, the first one first. -/
def configNames : List String := ["hx.toml", ".hx.toml", "hx.json"]

def readConfig (path : String) : Task (Except ConfigError Config) := do
  match ← Task.read path with
  | .error fault => return .error (.unreadable path fault.message)
  | .ok bytes =>
    match Text.ofBytes? bytes with
    | none => return .error (.unreadable path "stream did not contain valid UTF-8")
    | some text => return Config.ofFile path text

/-- The first of some files that holds a configuration. -/
def firstConfig : List String → Task (Option (Config × String))
  | [] => return none
  | path :: rest => do
    match ← readConfig path with
    | .ok c => return some (c, path)
    | .error _ => firstConfig rest

/-- The files that may hold the configuration for a directory. -/
def configFiles (directory : String) : List String :=
  (ancestors directory).flatMap fun d => configNames.map (joinPath d)

/-- The context of a command in a directory. -/
def Context.of (i : Invocation) (directory : String) : Task Context := do
  let style : Style := ⟨i.verbose, i.json⟩
  let config ← match i.config with
    | some named => do
      let path := joinPath directory named
      let failure := fun e => Failure.mk s!"Failed to load {path}" [ConfigError.message e]
      let c ← Task.settled failure (← readConfig path)
      pure (some (c, path))
    | none => firstConfig (configFiles directory)
  if let some (_, path) := config then
    style.trace s!"Using config {path}"
  return ⟨style, directory, config⟩

namespace Context

def scopeOf (c : Config) : Task Scope := Task.settled (fun e => .of (ConfigError.message e)) c.scope

/-! ### Routes -/

/-- What stands for a part that a route does not have. -/
def orDash (part : Option String) : String := part.getD "-"

/-- The widths of the columns of routes. -/
def routeRow (path function rpcPath template : String) : List (String × Nat) :=
  [(path, 28), (function, 16), (rpcPath, 20), (template, 24)]

def routesLayout (t : Route.Table) : Layout :=
  .object
    [("scope", .string t.scope.base.text),
     ("routes", .array (t.sorted.map fun (path, d) => .object
       [("path", .string path), ("template_path", .string? d.templatePath),
        ("rpc_path", .string? d.rpcPath), ("rpc_function", .string? d.rpcFunction)])),
     ("cache_manifest", .strings t.manifest.paths)]

def writeRoutes (s : Style) (t : Route.Table) : Task Unit := do
  s.title s!"Routes ({t.routes.size})"
  s.row (routeRow "PATH" "FUNCTION" "RPC PATH" "TEMPLATE")
  t.sorted.forM fun (path, d) =>
    s.row (routeRow path (orDash d.rpcFunction) (orDash d.rpcPath) (orDash d.templatePath))
  s.title s!"Cache manifest ({t.manifest.paths.length})"
  t.manifest.paths.forM s.item

def routes (x : Context) (file : String) (origin basePath : Option String) : Task Unit := do
  let found := (x.config.map Prod.fst).getD { origin := "http://localhost" }
  let c := { found with origin := origin.getD found.origin, basePath := basePath.getD found.basePath }
  let path := joinPath x.directory file
  x.style.trace s!"Reading {path}"
  let failure := fun e => Failure.mk s!"Failed to read {path}" [FileFault.message e]
  let bytes ← Task.settled failure (← Task.read path)
  let some manifest := Route.Manifest.ofBytes? bytes
    | throw (.of "invalid route manifest")
  let table ← Task.settled (fun e => .of (ConfigError.message e)) (Route.Table.ofConfig c)
  let table := table.addAll manifest
  if x.style.json then Task.put (routesLayout table).text else writeRoutes x.style table

/-! ### Calls -/

/-- The scope of calls. Without a configuration it is that of their address. -/
def callScope (x : Context) (path : String) : Task Scope :=
  match x.config with
  | some (c, _) => scopeOf c
  | none => Task.settled
      (fun e => ⟨"URL must be absolute when no config is available", [OriginError.message e]⟩)
      (Scope.of path "/")

def call (x : Context) (path method params : String) : Task Unit := do
  let some params := Value.ofText? params
    | throw ⟨"--params must be valid JSON", ["unexpected text"]⟩
  let scope ← x.callScope path
  let url ← Task.settled (fun e => .of (Url.UrlError.message e)) (scope.resolve path)
  x.style.trace s!"Calling {method} at {url.text}"
  let result ← Task.host (fun e => .of (Rpc.Error.message e)) (Rpc.invoke scope path method params)
  if result.isNull && !x.style.json then x.style.success "null (no content)"
  else Task.put (Layout.ofValue result).text

/-! ### Configurations -/

def configLayout (c : Config) : Layout :=
  .object (c.members.map fun (name, setting) => (name, match setting with
    | .inl s => .string s
    | .inr ss => .strings ss))

def showConfig (x : Context) : Task Unit := do
  let some (c, path) := x.config
    | throw (.of "No config found. Pass --config or create hx.toml.")
  if x.style.json then Task.put (configLayout c).text
  else
    x.style.title "Current Configuration"
    x.style.pair "file" path
    x.style.put ""
    modify fun w => { w with output := w.output ++ c.toml }

/-- The configuration in a file, or else the one that was found. -/
def chosenConfig (x : Context) : Option String → Task (Config × String)
  | some file => do
    let path := joinPath x.directory file
    let failure := fun e => Failure.mk s!"Invalid config {path}" [ConfigError.message e]
    let c ← Task.settled failure (← readConfig path)
    return (c, path)
  | none =>
    match x.config with
    | some found => return found
    | none => throw (.of "No config found. Pass a path or create hx.toml.")

def checkConfig (x : Context) (file : Option String) : Task Unit := do
  let (c, path) ← x.chosenConfig file
  let scope ← scopeOf c
  if x.style.json then
    Task.put (Layout.object
      [("cache_name", .string c.cacheName), ("file", .string path), ("scope", .string scope.base.text),
       ("valid", .leaf (Value.bool true).write)]).text
  else
    x.style.success s!"{path} is valid"
    x.style.pair "scope" scope.base.text
    x.style.pair "cache_name" c.cacheName
    x.style.pair "routes_file" c.routesFile
    x.style.pair "flag_header" c.flagHeader
    if c.staticAssets.isEmpty then
      x.style.warn "No static assets configured; install caches templates only"

def perform (x : Context) : Command → Task Unit
  | .routes file origin basePath => x.routes file origin basePath
  | .call path method params => x.call path method params
  | .showConfig => x.showConfig
  | .checkConfig file => x.checkConfig file

end Context

/-! ### The whole program -/

/-- How a run ends: the exit code, and what was written. -/
structure Report where
  code : UInt8
  written : Written

def version : String := "0.1.0"

/-- What is written where no command is run. -/
def Stop.report : Stop → Report
  | .misuse => ⟨2, ⟨"", "usage: hx [routes | rpc | config show | config check] [options]\n"⟩⟩
  | .help => ⟨0, ⟨"usage: hx [routes | rpc | config show | config check] [options]\n", ""⟩⟩
  | .version program => ⟨0, ⟨program ++ " " ++ Cli.version ++ "\n", ""⟩⟩

/-- A report of a failure in a line. -/
def failed (w : Written) (line : String) : Report := ⟨1, { w with notes := w.notes ++ line ++ "\n" }⟩

/-- Runs what was asked for in a directory. -/
def Invocation.run (i : Invocation) (directory : String) : Action Question Answer Report := do
  match ← (Context.of i directory).run ⟨"", ""⟩ with
  | (.error f, w) => return failed w ("Error: " ++ f.paragraph)
  | (.ok x, w) =>
    match ← (x.perform i.command).run w with
    | (.ok (), w) => return ⟨0, w⟩
    | (.error f, w) => return failed w (x.style.failureLine f)

/-- Runs the program with arguments in a directory. -/
def run (args : List String) (directory : String) : Action Question Answer Report :=
  match Invocation.ofArguments args with
  | .ok i => i.run directory
  | .error stop => .done stop.report

end EdgeWorker.Cli
