import EdgeWorker.Ascii
import EdgeWorker.Text.Blank

/-!
Points in time as they are written: a date, a time of the day to the second or finer, and the
distance from universal time. Blanks may stand before every part.
-/

namespace EdgeWorker.Cache

/-- A text read from the front, and the rest. -/
abbrev Read (α : Type) := List Char → Option (α × List Char)

def skipBlanks (cs : List Char) : List Char := cs.dropWhile Text.isBlank

/-- A number of at least one digit and at most `most`. -/
def readDigits (most : Nat) : Read Nat := fun cs =>
  let ds := (cs.take most).takeWhile Ascii.isDigit
  if ds.isEmpty then none
  else some (ds.foldl (fun n c => n * 10 + (c.toNat - 0x30)) 0, cs.drop ds.length)

/-- A number from `low` to `high` of one digit or two, after blanks. -/
def readPart (low high : Nat) : Read Nat := fun cs =>
  match readDigits 2 (skipBlanks cs) with
  | some (n, rest) => if low ≤ n && n ≤ high then some (n, rest) else none
  | none => none

/-- A mark, after blanks. -/
def readMark (mark : Char) : Read Unit := fun cs =>
  match skipBlanks cs with
  | c :: rest => if c = mark then some ((), rest) else none
  | [] => none

/-- A year: four digits, or any number of them after a sign. -/
def readYear : Read Int := fun cs =>
  match skipBlanks cs with
  | '-' :: rest => (readDigits rest.length rest).map fun (n, rest) => (-(n : Int), rest)
  | '+' :: rest => (readDigits rest.length rest).map fun (n, rest) => ((n : Int), rest)
  | rest => (readDigits 4 rest).map fun (n, rest) => ((n : Int), rest)

def isLeapYear (year : Int) : Bool := year % 4 == 0 && (year % 100 != 0 || year % 400 == 0)

def daysOf (year : Int) (month : Nat) : Nat :=
  if month = 2 then if isLeapYear year then 29 else 28
  else if [4, 6, 9, 11].contains month then 30 else 31

def readDate : Read Unit := fun cs => do
  let (year, cs) ← readYear cs
  let (_, cs) ← readMark '-' cs
  let (month, cs) ← readPart 1 12 cs
  let (_, cs) ← readMark '-' cs
  let (_, cs) ← readPart 1 (daysOf year month) cs
  if -262143 ≤ year && year ≤ 262142 then some ((), cs) else none

/-- A fraction of a second, if there is one. -/
def dropFraction : Read Unit
  | '.' :: cs => (readDigits cs.length cs).map fun (_, rest) => ((), rest)
  | cs => some ((), cs)

def readTime : Read Unit := fun cs => do
  let (_, cs) ← readPart 0 23 cs
  let (_, cs) ← readMark ':' cs
  let (_, cs) ← readPart 0 59 cs
  let (_, cs) ← readMark ':' cs
  let (_, cs) ← readPart 0 60 cs
  dropFraction cs

/-- The distance from universal time: less than a day, or none at all. -/
def readZone : Read Unit
  | 'Z' :: rest | 'z' :: rest => some ((), rest)
  | u :: t :: c :: rest =>
    if Ascii.sameLetters [u, t, c] "utc".toList then some ((), rest)
    else if ['+', '-', '\u2212'].contains u && Ascii.isDigit t && Ascii.isDigit c then
      let hours := (t.toNat - 0x30) * 10 + (c.toNat - 0x30)
      match rest.dropWhile fun d => d == ':' || Text.isBlank d with
      | a :: b :: rest =>
        if hours < 24 && '0' ≤ a && a ≤ '5' && Ascii.isDigit b then some ((), rest) else none
      | _ => none
    else none
  | _ => none

def isTimestamp (cs : List Char) : Bool :=
  let read := do
    let (_, cs) ← readDate cs
    let (_, cs) ← match cs with
      | c :: rest => if ['T', 't', ' '].contains c then some ((), rest) else none
      | [] => none
    let (_, cs) ← readTime cs
    readZone (skipBlanks cs)
  read.any fun (_, rest) => (skipBlanks rest).isEmpty

structure Timestamp where
  text : String
  valid : isTimestamp text.toList = true
  deriving DecidableEq

def Timestamp.ofText? (text : String) : Option Timestamp :=
  if h : isTimestamp text.toList = true then some ⟨text, h⟩ else none

def Timestamp.epoch : Timestamp := ⟨"1970-01-01T00:00:00Z", by decide +kernel⟩

end EdgeWorker.Cache
