import EdgeWorker.Text.Search
import EdgeWorker.Text.Utf8

/-!
Files by their paths: how paths are put together, why a file cannot be read, and files that are
kept in memory.
-/

namespace EdgeWorker.Cli

inductive FileFault where
  | missing
  /-- Something on the way to it is no directory. -/
  | notDirectory
  /-- It is a directory. -/
  | directory
  | other (reason : String)
  deriving DecidableEq, Repr

def FileFault.message : FileFault → String
  | .missing => "No such file or directory (os error 2)"
  | .notDirectory => "Not a directory (os error 20)"
  | .directory => "Is a directory (os error 21)"
  | .other reason => reason

/-- A path below a directory, unless it begins at the root. -/
def joinPath (directory path : String) : String :=
  if path.startsWith "/" || directory == "" then path
  else if directory.endsWith "/" then directory ++ path
  else directory ++ "/" ++ path

def segments (path : String) : List String := (Text.splitOn '/' path.toList).map String.ofList

/-- A directory and all above it, innermost first. -/
def ancestors (directory : String) : List String :=
  let parts := segments directory
  (List.range parts.length).reverse.map fun n =>
    match parts.take (n + 1) with
    | [""] => "/"
    | parts => String.intercalate "/" parts

/-! ### Files in memory -/

/-- Files by the parts of their paths, and directories. -/
structure Drive where
  files : List (List String × Bytes)
  directories : List (List String)

namespace Drive

/-- A drive with files by their paths, and a directory. -/
def of (files : List (String × Bytes)) (directory : String) : Drive :=
  let files := files.map fun (path, bytes) => ((segments path).filter (· ≠ ""), bytes)
  let within := ((segments directory).filter (· ≠ "")) :: files.map fun f => f.1.dropLast
  ⟨files, within.flatMap fun parts => (List.range (parts.length + 1)).map parts.take⟩

def isDirectory (d : Drive) (place : List String) : Bool := place.isEmpty || d.directories.contains place

/-- Where the parts of a path lead to from a place. Every part leads on from a directory, be it an
empty one. -/
def walk (d : Drive) (place : List String) : List String → Except FileFault (List String)
  | [] => .ok place
  | part :: rest =>
    if !d.isDirectory place then
      .error (if (d.files.lookup place).isSome then .notDirectory else .missing)
    else if part == "" || part == "." then d.walk place rest
    else if part == ".." then d.walk place.dropLast rest
    else d.walk (place ++ [part]) rest

def read (d : Drive) (path : String) : Except FileFault Bytes :=
  match d.walk [] (segments path) with
  | .error fault => .error fault
  | .ok place =>
    if d.isDirectory place then .error .directory
    else match d.files.lookup place with
      | some bytes => .ok bytes
      | none => .error .missing

end Drive
end EdgeWorker.Cli
