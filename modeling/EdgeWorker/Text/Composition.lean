import EdgeWorker.Text.CompositionTable
import EdgeWorker.Text.Runs

/-!
The composed form of a text: characters that can be composed of others are taken apart, the marks
after a character are put in the order of their combining classes, and what can be composed is put
together again. Characters that other characters always replace, such as the sign for ohm, are taken
as they stand: a text is composed when they have been replaced.
-/

namespace EdgeWorker.Text

/-- The runs of combining classes. -/
def classRuns : List Run := runs classTable

/-- The combining class of a character; that of a character which is no mark is 0. -/
def combiningClass (c : Char) : Nat :=
  if c.toNat < 0x300 then 0 else hexNumber (runOf classRuns c).label

structure Composite where
  whole : Char
  first : Char
  second : Char

def Composite.ofWord (word : List Char) : Composite :=
  let char (cs : List Char) : Char := Char.ofNat (hexNumber cs)
  let (whole, parts) := cutOr '=' word
  let (first, second) := cutOr '+' parts
  ⟨char whole, char first, char second⟩

/-- The composites that are not syllables of Hangul. -/
def composites : List Composite := (wordsOf pairTable).map Composite.ofWord

/-! ### Syllables of Hangul -/

/-- The parts of a syllable: a beginning, a vowel, and perhaps an end. -/
def syllableParts? (c : Char) : Option (List Char) :=
  let n := c.toNat
  if 0xAC00 ≤ n && n < 0xAC00 + 11172 then
    let place := n - 0xAC00
    let tail := place % 28
    some ([Char.ofNat (0x1100 + place / 588), Char.ofNat (0x1161 + place % 588 / 28)]
      ++ if tail = 0 then [] else [Char.ofNat (0x11A7 + tail)])
  else none

/-- The syllable of a beginning and a vowel, or of a syllable without an end and an end. -/
def syllable? (a b : Char) : Option Char :=
  let n := a.toNat
  let m := b.toNat
  if 0x1100 ≤ n && n < 0x1113 && 0x1161 ≤ m && m < 0x1176 then
    some (Char.ofNat (0xAC00 + ((n - 0x1100) * 21 + (m - 0x1161)) * 28))
  else if 0xAC00 ≤ n && n < 0xAC00 + 11172 && (n - 0xAC00) % 28 == 0 && 0x11A8 ≤ m && m < 0x11C3 then
    some (Char.ofNat (n + (m - 0x11A7)))
  else none

/-! ### Taking apart and putting together -/

/-- The character that two others compose. -/
def compose? (a b : Char) : Option Char :=
  match syllable? a b with
  | some c => some c
  | none => (composites.find? fun pair => pair.first == a && pair.second == b).map Composite.whole

/-- Takes a character apart as often as `depth` says. -/
def takeApart : Nat → Char → List Char
  | 0, c => [c]
  | depth + 1, c =>
    if c.toNat < 0xC0 then [c]
    else match syllableParts? c with
      | some parts => parts
      | none =>
        match composites.find? (·.whole == c) with
        | some pair => takeApart depth pair.first ++ [pair.second]
        | none => [c]

/-- A character with its combining class. -/
structure Classed where
  rank : Nat
  char : Char

/-- The parts of a text, each with its class. No character is composed in more than four steps. -/
def parts (cs : List Char) : List Classed :=
  (cs.flatMap (takeApart 4)).map fun c => ⟨combiningClass c, c⟩

/-- Puts a mark behind the marks of lower classes. -/
def placeMark (x : Classed) : List Classed → List Classed
  | [] => [x]
  | y :: rest => if y.rank != 0 && y.rank < x.rank then y :: placeMark x rest else x :: y :: rest

/-- Puts the marks after each character in the order of their classes. -/
def orderMarks : List Classed → List Classed
  | [] => []
  | x :: rest => placeMark x (orderMarks rest)

/-- Composes a character with what follows it. The marks kept before another one of their class, or
before a character that is no mark, part it from the first character. -/
def composeFrom (start : Char) : List Classed → List Classed → List Char
  | kept, [] => start :: kept.map Classed.char
  | kept, x :: rest =>
    let parted := kept.any fun mark => x.rank ≤ mark.rank
    match if parted then none else compose? start x.char with
    | some whole => composeFrom whole kept rest
    | none =>
      if x.rank = 0 then start :: kept.map Classed.char ++ composeFrom x.char [] rest
      else composeFrom start (kept ++ [x]) rest

/-- Puts together what can be composed. -/
def putTogether : List Classed → List Char
  | [] => []
  | x :: rest => if x.rank = 0 then composeFrom x.char [] rest else x.char :: putTogether rest

def composed (cs : List Char) : List Char := putTogether (orderMarks (parts cs))

end EdgeWorker.Text
