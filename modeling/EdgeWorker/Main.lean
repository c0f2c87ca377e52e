import EdgeWorker.Cli.Run

/-!
The program `hx`. It reads real files; it has no network, so every call fails as it does where
nobody answers.
-/

namespace EdgeWorker.Cli

/-- Why a file cannot be read, from what the system says. -/
def faultOf : IO.Error → FileFault
  | .noFileOrDirectory .. => .missing
  | .inappropriateType .. => .directory
  | e => .other (toString e)

/-- Writes a log record on the standard error. -/
def writeRecord (record : Log.Record) : IO Unit :=
  let fields := record.fields.map fun (name, value) => s!" {name}={value.text}"
  IO.eprintln (record.level.capitals ++ " " ++ record.message ++ String.join fields)

/-- The answer of the system to a question of a host. -/
def answerHost : (q : Host.Question) → IO (Host.Answer q)
  | .fetch r => return .error (.transport s!"error sending request for url ({r.target.text})")
  | .store _ => return .error (.storage "there is no storage")
  | .log record => writeRecord record
  | .now => return .epoch
  | .clock => do
    let milliseconds : Nat ← IO.monoMsNow
    return milliseconds * 1000
  | .freshId => return toString (← IO.monoNanosNow)

def answerQuestion : (q : Question) → IO (Answer q)
  | .read path => do
    try return .ok (← IO.FS.readBinFile path).toList
    catch e => return .error (faultOf e)
  | .host q => answerHost q

def perform {α : Type} : Action Question Answer α → IO α
  | .done a => return a
  | .ask q next => do perform (next (← answerQuestion q))

end EdgeWorker.Cli

def main (args : List String) : IO UInt32 := do
  let report ← EdgeWorker.Cli.perform (EdgeWorker.Cli.run args (toString (← IO.currentDir)))
  IO.print report.written.output
  IO.eprint report.written.notes
  return report.code.toUInt32
