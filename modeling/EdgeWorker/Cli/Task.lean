import EdgeWorker.Cli.File
import EdgeWorker.Host
import EdgeWorker.Json.Layout
import EdgeWorker.Text.Blank

/-!
The work of a command: it reads files, asks a host, and writes lines for the user and about itself.
-/

namespace EdgeWorker.Cli

open EdgeWorker.Json

/-- What a command asks of its surroundings. -/
inductive Question where
  | read (path : String)
  | host (q : Host.Question)

abbrev Answer : Question → Type
  | .read _ => Except FileFault Bytes
  | .host q => Host.Answer q

/-- How lines are written. -/
structure Style where
  verbose : Bool
  json : Bool

/-- What was written: the output, and the lines about the command itself. -/
structure Written where
  output : String
  notes : String

/-- Why a command fails: the reason, and what that comes from. -/
structure Failure where
  reason : String
  causes : List String
  deriving DecidableEq, Repr

namespace Failure

/-- A failure without a cause. -/
def of (reason : String) : Failure := ⟨reason, []⟩

/-- A failure on a line. -/
def line (f : Failure) : String := String.intercalate ": " (f.reason :: f.causes)

/-- A text with four blanks before each of its lines. -/
def indented (text : String) : String :=
  String.intercalate "\n" (((Text.splitOn '\n' text.toList).map String.ofList).map ("    " ++ ·))

/-- The causes, each on its line, with numbers if there are several. -/
def causeLines : List String → String
  | [] => ""
  | [cause] => indented cause
  | causes => String.intercalate "\n" (causes.zipIdx.map fun (cause, n) => s!"    {n}: {cause}")

/-- A failure with its causes below it. -/
def paragraph (f : Failure) : String :=
  if f.causes.isEmpty then f.reason else f.reason ++ "\n\nCaused by:\n" ++ causeLines f.causes

end Failure

/-- A computation that writes and may fail; what it wrote before is kept. -/
abbrev Task := ExceptT Failure (StateT Written (Action Question Answer))

namespace Task

def ask (q : Question) : Task (Answer q) := fun w => (Action.question q).bind fun a => .done (.ok a, w)

def read (path : String) : Task (Except FileFault Bytes) := ask (.read path)

def askHost (q : Host.Question) : Action Question Answer (Host.Answer q) := Action.question (Question.host q)

/-- Does a job of a host. -/
def host {ε α : Type} (failure : ε → Failure) (job : Host.Attempt ε α) : Task α := fun w =>
  (job.run.expand askHost).bind fun result => .done (result.mapError failure, w)

def settled {ε α : Type} (failure : ε → Failure) (result : Except ε α) : Task α := fun w =>
  .done (result.mapError failure, w)

def put (line : String) : Task Unit := modify fun w => { w with output := w.output ++ line ++ "\n" }

/-- Writes a line about the command. -/
def note (line : String) : Task Unit := modify fun w => { w with notes := w.notes ++ line ++ "\n" }

end Task

namespace Style

/-- Writes a line of output, unless the output is JSON. -/
def put (s : Style) (line : String) : Task Unit := if s.json then pure () else Task.put line

/-- Writes that something went well. -/
def success (s : Style) (text : String) : Task Unit := s.put ("✓ " ++ text)

/-- Writes a title with an empty line before it. -/
def title (s : Style) (text : String) : Task Unit := s.put ("\n" ++ text)

def pair (s : Style) (name value : String) : Task Unit := s.put s!"  {name}: {value}"

def item (s : Style) (text : String) : Task Unit := s.put ("  • " ++ text)

/-- A text filled up with blanks to a width. -/
def padded (width : Nat) (text : String) : String :=
  text ++ String.ofList (List.replicate (width - text.length) ' ')

/-- Writes a row of a table; nothing stands after its last column. -/
def row (s : Style) (columns : List (String × Nat)) : Task Unit :=
  let cells := columns.map fun (text, width) => padded width text
  s.put ("  " ++ String.ofList (Text.dropEnd Text.isBlank (String.intercalate "  " cells).toList))

/-- Writes a warning, unless the output is JSON. -/
def warn (s : Style) (text : String) : Task Unit := if s.json then pure () else Task.note ("⚠ " ++ text)

/-- Writes what is being done, if that is asked for. -/
def trace (s : Style) (text : String) : Task Unit :=
  if s.verbose && !s.json then Task.note ("→ " ++ text) else pure ()

def failureLine (s : Style) (f : Failure) : String :=
  if s.json then String.ofList (record [("error", quote f.line)]) else "✗ " ++ f.line

end Style
end EdgeWorker.Cli
