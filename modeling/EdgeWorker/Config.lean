import EdgeWorker.Json.Record
import EdgeWorker.Scope
import EdgeWorker.Toml.Printer
import EdgeWorker.Toml.Reader

/-!
The configuration of a worker, and reading it from JSON, from TOML and from files of either kind.
-/

namespace EdgeWorker

open EdgeWorker.Json

/-- How the lines of a log are written. -/
inductive LogFormat where
  | json
  | human
  deriving DecidableEq, Repr

/-- The formats by their names. -/
def LogFormat.names : List (String × LogFormat) := [("json", .json), ("human", .human)]

def LogFormat.text : LogFormat → String
  | .json => "json"
  | .human => "human"

/-- The configuration of a worker. Only the origin has to be given. -/
structure Config where
  origin : String
  basePath : String := "/"
  cacheName : String := "cs-htmx"
  templateDir : String := "templates"
  partialDir : String := "templates"
  routesFile : String := "routes.json"
  staticAssets : List String := ["index.html", "styles.css"]
  flagHeader : String := "HX-Request"
  headerPrefix : String := "hx-"
  logFormat : LogFormat := .json
  logLevel : String := "info"
  deriving DecidableEq, Repr

/-- Why there is no configuration. -/
inductive ConfigError where
  | unreadable (path : String) (reason : String)
  | malformed
  | origin (e : OriginError)
  deriving DecidableEq, Repr

def ConfigError.message : ConfigError → String
  | .unreadable path reason => s!"Failed to read config file {path}: {reason}"
  | .malformed => "Failed to parse config"
  | .origin e => e.message

namespace Config

/-- The names of the settings in their order. -/
def names : List String :=
  ["origin", "base_path", "cache_name", "template_dir", "partial_dir", "routes_file",
   "static_assets", "flag_header", "header_prefix", "log_format", "log_level"]

/-- How settings are found and read: a string, a list of strings and a format by name, each with
what it is where it is missing. -/
structure Source where
  string : String → Option String → Option String
  strings : String → List String → Option (List String)
  format : String → LogFormat → Option LogFormat

/-- The configuration of a source. -/
def ofSource (s : Source) : Option Config :=
  let preset : Config := { origin := "" }
  match s.string "origin" none, s.string "base_path" preset.basePath,
    s.string "cache_name" preset.cacheName, s.string "template_dir" preset.templateDir,
    s.string "partial_dir" preset.partialDir, s.string "routes_file" preset.routesFile,
    s.strings "static_assets" preset.staticAssets, s.string "flag_header" preset.flagHeader,
    s.string "header_prefix" preset.headerPrefix, s.format "log_format" preset.logFormat,
    s.string "log_level" preset.logLevel with
  | some origin, some basePath, some cacheName, some templateDir, some partialDir, some routesFile,
    some staticAssets, some flagHeader, some headerPrefix, some logFormat, some logLevel =>
    some
      { origin, basePath, cacheName, templateDir, partialDir, routesFile, staticAssets, flagHeader,
        headerPrefix, logFormat, logLevel }
  | _, _, _, _, _, _, _, _, _, _, _ => none

/-- Settings as the members of a JSON record. -/
def jsonSource (fs : Fields) : Source where
  string name preset := match preset with
    | some p => fs.defaulted name Reader.string p
    | none => fs.required name Reader.string
  strings name preset := fs.defaulted name (Reader.list Reader.string) preset
  format name preset := fs.defaulted name (Reader.choice LogFormat.names) preset

def ofJson (text : String) : Except ConfigError Config :=
  match (Reader.ofText? (Fields.of? names) text).bind fun fs => ofSource (jsonSource fs) with
  | some c => .ok c
  | none => .error .malformed

/-- The strings of a TOML array. -/
def tomlStrings? (items : List Toml.Item) : Option (List String) :=
  items.mapM fun
    | .string s => some s
    | _ => none

/-- A format by its name, as a string or as the only key of a table with nothing in it. -/
def tomlFormat? : Toml.Item → Option LogFormat
  | .string s => LogFormat.names.lookup s
  | .table _ [(s, .table _ [])] | .table _ [(s, .array [])] => LogFormat.names.lookup s
  | _ => none

/-- Settings as the entries of a TOML document. -/
def tomlSource (es : Toml.Entries) : Source where
  string name preset := match es.lookup name with
    | none => preset
    | some (.string s) => some s
    | some _ => none
  strings name preset := match es.lookup name with
    | none => some preset
    | some (.array items) => tomlStrings? items
    | some _ => none
  format name preset := match es.lookup name with
    | none => some preset
    | some item => tomlFormat? item

def ofToml (text : String) : Except ConfigError Config :=
  match (Toml.ofText? text).bind fun es => ofSource (tomlSource es) with
  | some c => .ok c
  | none => .error .malformed

def scope (c : Config) : Except ConfigError Scope :=
  match Scope.of c.origin c.basePath with
  | .ok s => .ok s
  | .error e => .error (.origin e)

/-- The name of a file in a path, and whether it ends in the extension of JSON files. A point at
the beginning of a name begins no extension. -/
def isJsonFile (path : String) : Bool :=
  let name := (path.toList.reverse.takeWhile (· != '/')).reverse
  let extension := name.reverse.takeWhile (· != '.')
  extension.length + 1 < name.length && extension.reverse == "json".toList

/-- The configuration of a file with a text, which must have a scope. -/
def ofFile (path : String) (text : String) : Except ConfigError Config :=
  match if isJsonFile path then ofJson text else ofToml text with
  | .error e => .error e
  | .ok c =>
    match c.scope with
    | .error e => .error e
    | .ok _ => .ok c

/-- The members of a configuration in their order. -/
def members (c : Config) : List (String × (String ⊕ List String)) :=
  [("origin", .inl c.origin), ("base_path", .inl c.basePath), ("cache_name", .inl c.cacheName),
   ("template_dir", .inl c.templateDir), ("partial_dir", .inl c.partialDir),
   ("routes_file", .inl c.routesFile), ("static_assets", .inr c.staticAssets),
   ("flag_header", .inl c.flagHeader), ("header_prefix", .inl c.headerPrefix),
   ("log_format", .inl c.logFormat.text), ("log_level", .inl c.logLevel)]

def toml (c : Config) : String :=
  String.ofList <| c.members.flatMap fun (name, setting) =>
    name.toList ++ [' ', '=', ' '] ++ (match setting with
      | .inl s => Toml.writeString s
      | .inr ss => Toml.writeStrings ss) ++ ['\n']

end Config
end EdgeWorker
