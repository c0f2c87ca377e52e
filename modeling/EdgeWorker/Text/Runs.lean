import EdgeWorker.Ascii
import EdgeWorker.Text.Search

/-!
Properties of characters given by runs of code points. The written form of a table of runs is a
word for each of them: the distance from the beginning of the run before, a colon, and a label.
-/

namespace EdgeWorker.Text

/-- A run of code points with one label: it ends where the next run of its table begins. -/
structure Run where
  first : Nat
  label : List Char

def hexNumber (cs : List Char) : Nat :=
  cs.foldl (fun n c => 16 * n + (Ascii.hexValue? c).getD 0) 0

/-- The runs of words, the first of them at a distance from a code point. -/
def runsAfter : Nat → List (List Char) → List Run
  | _, [] => []
  | reached, word :: more =>
    let (distance, label) := cutOr ':' word
    let first := reached + hexNumber distance
    ⟨first, label⟩ :: runsAfter first more

/-- The words of the lines of a table. -/
def wordsOf (table : List String) : List (List Char) := table.flatMap fun line => splitOn ' ' line.toList

def runs (table : List String) : List Run := runsAfter 0 (wordsOf table)

/-- The run that a code point lies in: the last one that does not begin behind it. -/
def runFrom (n : Nat) (found : Run) : List Run → Run
  | [] => found
  | run :: more => if run.first ≤ n then runFrom n run more else found

/-- The run of a table that a character lies in. -/
def runOf (table : List Run) (c : Char) : Run := runFrom c.toNat ⟨0, []⟩ table

def labelOf (table : List Run) (c : Char) : String := String.ofList (runOf table c).label

end EdgeWorker.Text
