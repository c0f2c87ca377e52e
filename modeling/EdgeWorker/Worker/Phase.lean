/-!
The phases in the life of a worker.
-/

namespace EdgeWorker

/-- A phase. Only in `activated` does a worker answer requests itself. -/
inductive Phase where
  /-- Routes may be there, nothing is stored yet. -/
  | parsed
  | installing
  | installed
  | activating
  | activated
  /-- An installation failed. -/
  | redundant
  deriving DecidableEq, Repr

namespace Phase

def name : Phase → String
  | parsed => "parsed"
  | installing => "installing"
  | installed => "installed"
  | activating => "activating"
  | activated => "activated"
  | redundant => "redundant"

/-- Whether a worker answers requests itself. -/
def serves : Phase → Bool
  | activated => true
  | _ => false

end Phase
end EdgeWorker
