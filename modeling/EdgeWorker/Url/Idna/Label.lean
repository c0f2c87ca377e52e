import EdgeWorker.Text.Composition
import EdgeWorker.Text.PropertyTable
import EdgeWorker.Url.Idna.Mapping
import EdgeWorker.Url.Punycode

/-!
The labels of a domain, between its dots: which texts are labels, and their form in ASCII.
-/

namespace EdgeWorker.Url.Idna

open EdgeWorker.Text

def directionRuns : List Run := runs directionTable

def joiningRuns : List Run := runs joiningTable

def markRuns : List Run := runs markTable

/-- The direction of a character, by its name in the property `Bidi_Class`. -/
def direction (c : Char) : String := labelOf directionRuns c

/-- How a character joins its neighbours, by its name in the property `Joining_Type`. -/
def joining (c : Char) : String := labelOf joiningRuns c

/-- The characters that have no place of their own in a line. -/
def isMark (c : Char) : Bool := labelOf markRuns c == "M"

/-! ### Joiners -/

/-- The combining class of the signs that leave a vowel out. -/
def vowelKiller : Nat := 9

/-- Whether a character that joins as `names` say comes next, if those are left out that are
transparent. -/
def joinsNext (names : List String) (cs : List Char) : Bool :=
  match cs.dropWhile (joining · == "T") with
  | c :: _ => names.contains (joining c)
  | [] => false

/-- Whether the joiners of a text stand where they show: after the sign that leaves a vowel out, or,
for the one that parts letters, between letters that would join. What stands before the text is
given from its end. -/
def joinersFit : List Char → List Char → Bool
  | _, [] => true
  | before, c :: rest =>
    let killed := before.head?.any (combiningClass · == vowelKiller)
    (match c.toNat with
      | 0x200C => killed || (joinsNext ["L", "D"] before && joinsNext ["R", "D"] rest)
      | 0x200D => killed
      | _ => true)
      && joinersFit (c :: before) rest

/-! ### Directions -/

/-- Whether the characters of a label go from right to left. -/
def goesLeft (c : Char) : Bool := ["R", "AL", "AN"].contains (direction c)

/-- Whether a label of a domain with both directions can be told from its neighbours: it holds and
ends in characters of its own direction, or of none. -/
def directionFits (label : List Char) : Bool :=
  match label.map direction with
  | [] => true
  | first :: more =>
    let all := first :: more
    let last := (all.reverse.dropWhile (· == "NSM")).head?.getD first
    let neutral := ["EN", "ES", "CS", "ET", "ON", "BN", "NSM"]
    if ["R", "AL"].contains first then
      all.all (["R", "AL", "AN"] ++ neutral).contains
        && ["R", "AL", "EN", "AN"].contains last
        && !(all.contains "EN" && all.contains "AN")
    else first == "L" && all.all ("L" :: neutral).contains && ["L", "EN"].contains last

/-! ### Labels -/

/-- What a label in ASCII begins with if it stands for a label beyond ASCII. -/
def marker : List Char := ['x', 'n', '-', '-']

def isAscii (c : Char) : Bool := c.toNat < 0x80

/-- Whether a text beyond ASCII is one that other texts stand for. -/
def isSettled (label : List Char) : Bool :=
  label.all (fun c => mapped? c == some [c]) && composed label == label

/-- The text that a label stands for. -/
def readLabel? (label : List Char) : Option (List Char) :=
  match after? marker label with
  | none => some label
  | some digits =>
    match Punycode.decode? digits with
    | some text => if !text.all isAscii && isSettled text then some text else none
    | none => none

/-- Whether a text is a label: it begins with no mark, and its joiners have a place. -/
def isLabel (label : List Char) : Bool :=
  label.all isAscii || (!label.head?.any isMark && joinersFit [] label)

/-- A label in ASCII. -/
def labelToAscii (label : List Char) : List Char :=
  if label.all isAscii then label else marker ++ Punycode.encode label

end EdgeWorker.Url.Idna
