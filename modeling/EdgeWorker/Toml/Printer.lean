import EdgeWorker.Ascii

/-!
Writing TOML: strings in the plainest quotes that can hold them, and arrays with a line for each
item.
-/

namespace EdgeWorker.Toml

def longestRun (c : Char) (cs : List Char) : Nat :=
  (cs.foldl (fun (best, run) d => if d == c then (max best (run + 1), run + 1) else (best, 0)) (0, 0)).1

def hasControls (cs : List Char) : Bool :=
  cs.any fun c => (c.toNat < 0x20 || c.toNat == 0x7F) && c != '\t' && c != '\n'

/-- A digit of base sixteen, letters large. -/
def hexLetter (n : Nat) : Char := if n < 10 then Char.ofNat (0x30 + n) else Char.ofNat (0x37 + n)

/-- The escape of a character that needs one whatever stands around it. -/
def escape? (many : Bool) (c : Char) : Option (List Char) :=
  if c == '\x08' then some ['\\', 'b']
  else if c == '\t' then some ['\\', 't']
  else if c == '\n' then if many then none else some ['\\', 'n']
  else if c == '\x0c' then some ['\\', 'f']
  else if c == '\r' then some ['\\', 'r']
  else if c == '\\' then some ['\\', '\\']
  else if c.toNat < 0x20 || c.toNat == 0x7F then
    some ['\\', 'u', '0', '0', hexLetter (c.toNat / 16), hexLetter (c.toNat % 16)]
  else none

/-- The characters between quotes; of more than `free` double quotes in a row the last is
escaped. -/
def escaped (many : Bool) (free : Nat) : Nat → List Char → List Char
  | _, [] => []
  | run, c :: rest =>
    if c == '"' then
      if run < free then '"' :: escaped many free (run + 1) rest
      else '\\' :: '"' :: escaped many free 0 rest
    else match escape? many c with
      | some e => e ++ escaped many free 0 rest
      | none => c :: escaped many free 0 rest

/-- A string of many lines, which begins on a line of its own if it has line breaks. -/
def writeMany (quotes : List Char) (breaks : Bool) (body : List Char) : List Char :=
  quotes ++ (if breaks then ['\n'] else []) ++ body ++ quotes

def writeString (s : String) : List Char :=
  let cs := s.toList
  let controls := hasControls cs
  let escapes := controls || cs.contains '\\'
  let breaks := cs.contains '\n'
  let doubles := longestRun '"' cs
  let singles := longestRun '\'' cs
  let threeDoubles := ['"', '"', '"']
  if !escapes && doubles == 0 && !breaks then '"' :: escaped false 0 0 cs ++ ['"']
  else if !controls && singles == 0 && !breaks then '\'' :: cs ++ ['\'']
  else if !escapes && doubles ≤ 2 then writeMany threeDoubles breaks (escaped true 2 0 cs)
  else if !controls && singles ≤ 2 then writeMany ['\'', '\'', '\''] breaks cs
  else if breaks then writeMany threeDoubles breaks (escaped true 2 0 cs)
  else '"' :: escaped false 0 0 cs ++ ['"']

/-- The written form of an array of strings: a line for each of them if there is more than one. -/
def writeStrings (ss : List String) : List Char :=
  match ss with
  | [] => ['[', ']']
  | [s] => '[' :: writeString s ++ [']']
  | ss => '[' :: ss.flatMap (fun s => "\n    ".toList ++ writeString s ++ [',']) ++ ['\n', ']']

end EdgeWorker.Toml
