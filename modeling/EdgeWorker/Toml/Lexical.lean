import EdgeWorker.Ascii
import EdgeWorker.Decimal.Double
import EdgeWorker.Text.Search

/-!
The leaves of a TOML document: blanks and comments, strings, numbers and dates. A reader takes what
it reads off the front of a text and returns the rest.
-/

namespace EdgeWorker.Toml

open EdgeWorker.Text

/-- A text read from the front, and the rest. -/
abbrev Read (α : Type) := Option (α × List Char)

/-- Blanks within a line. -/
def isBlank (c : Char) : Bool := c == ' ' || c == '\t'

def skipBlanks (cs : List Char) : List Char := cs.dropWhile isBlank

/-- The characters of comments and strings. -/
def isTextChar (c : Char) : Bool := c == '\t' || (0x20 ≤ c.toNat && c.toNat != 0x7F)

/-- The rest after a line break, if there is one. -/
def lineBreak? : List Char → Option (List Char)
  | '\n' :: rest => some rest
  | '\r' :: '\n' :: rest => some rest
  | _ => none

def skipComment : List Char → List Char
  | '#' :: rest => rest.dropWhile isTextChar
  | cs => cs

def skipLines : Nat → List Char → List Char
  | 0, cs => cs
  | steps + 1, cs =>
    let after := skipComment (skipBlanks cs)
    match lineBreak? after with
    | some rest => skipLines steps rest
    | none => after

/-! ### Strings -/

def hexNumber? (cs : List Char) : Option Nat :=
  cs.foldlM (fun n c => (Ascii.hexValue? c).map fun d => n * 16 + d) 0

/-- The character that so many digits stand for. -/
def readScalar (count : Nat) (cs : List Char) : Read Char :=
  if cs.length < count then none
  else match hexNumber? (cs.take count) with
    | some n => if n.isValidChar then some (Char.ofNat n, cs.drop count) else none
    | none => none

/-- The character of an escape, after the backslash. -/
def readEscape : List Char → Read Char
  | 'b' :: rest => some ('\x08', rest)
  | 't' :: rest => some ('\t', rest)
  | 'n' :: rest => some ('\n', rest)
  | 'f' :: rest => some ('\x0c', rest)
  | 'r' :: rest => some ('\r', rest)
  | '"' :: rest => some ('"', rest)
  | '\\' :: rest => some ('\\', rest)
  | 'u' :: rest => readScalar 4 rest
  | 'U' :: rest => readScalar 8 rest
  | _ => none

/-- A string of one line with escapes, after its quote. -/
def readBasic : Nat → List Char → Read (List Char)
  | 0, _ => none
  | _, '"' :: rest => some ([], rest)
  | steps + 1, '\\' :: rest =>
    match readEscape rest with
    | some (c, rest) => (readBasic steps rest).map fun (s, rest) => (c :: s, rest)
    | none => none
  | steps + 1, c :: rest =>
    if isTextChar c then (readBasic steps rest).map fun (s, rest) => (c :: s, rest) else none
  | _, [] => none

/-- A string of one line without escapes, after its quote. -/
def readLiteral : List Char → Read (List Char)
  | '\'' :: rest => some ([], rest)
  | c :: rest => if isTextChar c then (readLiteral rest).map fun (s, rest) => (c :: s, rest) else none
  | [] => none

/-- The end of a string of many lines: three quotes, and up to two more that belong to it. -/
def closing? (quote : Char) (cs : List Char) : Read (List Char) :=
  let quotes := cs.takeWhile (· == quote)
  if quotes.length < 3 then none
  else
    let inside := min (quotes.length - 3) 2
    some (List.replicate inside quote, cs.drop (inside + 3))

def skipSpace : List Char → List Char
  | '\r' :: '\n' :: rest => skipSpace rest
  | c :: rest => if isBlank c || c == '\n' then skipSpace rest else c :: rest
  | [] => []

/-- A string of many lines, after its quotes. Every line break is one character; a backslash at
the end of a line drops the blanks that follow. -/
def readMany (quote : Char) (escapes : Bool) : Nat → List Char → Read (List Char)
  | 0, _ => none
  | steps + 1, cs =>
    let on := fun (c : Char) (rest : List Char) =>
      (readMany quote escapes steps rest).map fun (s, rest) => (c :: s, rest)
    match closing? quote cs with
    | some done => some done
    | none =>
      match lineBreak? cs with
      | some rest => on '\n' rest
      | none =>
        match cs with
        | '\\' :: rest =>
          if !escapes then on '\\' rest
          else match readEscape rest with
            | some (c, rest) => on c rest
            | none =>
              match lineBreak? (skipBlanks rest) with
              | some rest => readMany quote escapes steps (skipSpace rest)
              | none => none
        | c :: rest => if isTextChar c then on c rest else none
        | [] => none

/-- A string, from its first quote on. -/
def readString (cs : List Char) : Read String :=
  let fuel := cs.length + 1
  let afterBreak := fun rest => (lineBreak? rest).getD rest
  let read := match cs with
    | '"' :: '"' :: '"' :: rest => readMany '"' true fuel (afterBreak rest)
    | '\'' :: '\'' :: '\'' :: rest => readMany '\'' false fuel (afterBreak rest)
    | '"' :: rest => readBasic fuel rest
    | '\'' :: rest => readLiteral rest
    | _ => none
  read.map fun (s, rest) => (String.ofList s, rest)

/-! ### Numbers and dates -/

/-- The digits of a number, between which single underscores may stand. -/
def digits? (isDigit : Char → Bool) (cs : List Char) : Option (List Char) :=
  if (splitOn '_' cs).all fun group => !group.isEmpty && group.all isDigit then
    some (cs.filter (· != '_'))
  else none

/-- The number of digits in a base. -/
def number? (base : Nat) (cs : List Char) : Option Nat :=
  (digits? (fun c => match Ascii.hexValue? c with
    | some d => d < base
    | none => false) cs).bind fun ds =>
      ds.foldlM (fun n c => (Ascii.hexValue? c).map fun d => n * base + d) 0

/-- Digits in base ten without a zero before others. -/
def whole? (cs : List Char) : Option Nat :=
  match cs with
  | '0' :: _ :: _ => none
  | cs => number? 10 cs

/-- A text without the sign it may begin with, and whether that is a minus. -/
def unsigned (cs : List Char) : Bool × List Char :=
  match cs with
  | '-' :: rest => (true, rest)
  | '+' :: rest => (false, rest)
  | cs => (false, cs)

/-- Whether a text is an integer of 64 bits. -/
def isInteger (cs : List Char) : Bool :=
  let fits := fun (n : Option Nat) (bound : Nat) => match n with
    | some n => n < bound
    | none => false
  let bound := 1 <<< 63
  match cs with
  | '0' :: 'x' :: rest => fits (number? 16 rest) bound
  | '0' :: 'o' :: rest => fits (number? 8 rest) bound
  | '0' :: 'b' :: rest => fits (number? 2 rest) bound
  | cs =>
    let (negative, rest) := unsigned cs
    fits (whole? rest) (if negative then bound + 1 else bound)

/-- Whether a decimal has a nearest double. The first digit that is not zero decides unless it is
near the greatest one. -/
def isFinite (coefficient : Nat) (exponent : Int) : Bool :=
  let places : Int := (Nat.toDigits 10 coefficient).length + exponent
  if coefficient == 0 || places < 300 then true
  else if 310 < places then false
  else (Decimal.Double.ofRatio false (coefficient * Nat.pow 10 exponent.toNat)
    (Nat.pow 10 (-exponent).toNat)).isSome

/-- Whether a text is a number with a point or an exponent that has a nearest double, or one of the
words for what is no number. -/
def isFloat (cs : List Char) : Bool :=
  let (_, rest) := unsigned cs
  if rest == ['i', 'n', 'f'] || rest == ['n', 'a', 'n'] then true
  else
    let mantissa := rest.takeWhile fun c => c != 'e' && c != 'E'
    let power := match rest.drop mantissa.length with
      | [] => some (none : Option Int)
      | _ :: e =>
        let (negative, e) := unsigned e
        (number? 10 e).map fun n => some (if negative then -(n : Int) else n)
    let (before, after) := match cutAt ['.'] mantissa with
      | some (before, after) => (before, some after)
      | none => (mantissa, none)
    match whole? before, after, power with
    | some n, some fraction, some e =>
      match digits? Ascii.isDigit fraction with
      | some ds =>
        isFinite (ds.foldl (fun n d => n * 10 + (d.toNat - 0x30)) n) (e.getD 0 - ds.length)
      | none => false
    | some n, none, some (some e) => isFinite n e
    | _, _, _ => false

/-- The number of exactly so many digits. -/
def fixed? (count : Nat) (cs : List Char) : Option Nat :=
  if cs.length = count && cs.all Ascii.isDigit then
    some (cs.foldl (fun n d => n * 10 + (d.toNat - 0x30)) 0)
  else none

def daysOf (year month : Nat) : Nat :=
  if month == 2 then
    if (year % 4 == 0 && year % 100 != 0) || year % 400 == 0 then 29 else 28
  else if [4, 6, 9, 11].contains month then 30 else 31

def isDate (cs : List Char) : Bool :=
  match (splitOn '-' cs) with
  | [y, m, d] =>
    match fixed? 4 y, fixed? 2 m, fixed? 2 d with
    | some y, some m, some d => 1 ≤ m && m ≤ 12 && 1 ≤ d && d ≤ daysOf y m
    | _, _, _ => false
  | _ => false

def isTime (cs : List Char) : Bool :=
  let (clock, fraction) := match cutAt ['.'] cs with
    | some (clock, fraction) => (clock, !fraction.isEmpty && fraction.all Ascii.isDigit)
    | none => (cs, true)
  match (splitOn ':' clock) with
  | [h, m, s] =>
    match fixed? 2 h, fixed? 2 m, fixed? 2 s with
    | some h, some m, some s => fraction && h ≤ 23 && m ≤ 59 && s ≤ 60
    | _, _, _ => false
  | _ => false

/-- A time without the offset it may end with; none if the offset is none. -/
def withoutOffset (cs : List Char) : Option (List Char) :=
  match cs.getLast? with
  | some 'Z' | some 'z' => some cs.dropLast
  | _ =>
    let clock := cs.takeWhile fun c => c != '+' && c != '-'
    match cs.drop clock.length with
    | [] => some cs
    | _ :: offset =>
      match splitOn ':' offset with
      | [h, m] =>
        match fixed? 2 h, fixed? 2 m with
        | some h, some m => if h ≤ 23 && m ≤ 59 then some clock else none
        | _, _ => none
      | _ => none

def isDateTime (cs : List Char) : Bool :=
  isDate cs || isTime cs ||
    (isDate (cs.take 10) && match cs.drop 10 with
      | sep :: time => (sep == 'T' || sep == 't' || sep == ' ') && ((withoutOffset time).map isTime).getD false
      | [] => false)

/-- The characters of numbers, dates and words. -/
def isScalarChar (c : Char) : Bool :=
  Ascii.isAlphanumeric c || c == '+' || c == '-' || c == '.' || c == '_' || c == ':'

/-- A number, a date or a truth value. The time of a date may stand behind a blank. -/
def readScalarItem (cs : List Char) : Read Unit :=
  let word := cs.takeWhile isScalarChar
  let rest := cs.drop word.length
  let long := match rest with
    | ' ' :: more => word ++ ' ' :: more.takeWhile isScalarChar
    | _ => word
  if isDate word && long.length != word.length && isDateTime long then some ((), cs.drop long.length)
  else if word == "true".toList || word == "false".toList || isDateTime word || isInteger word
      || isFloat word then
    some ((), rest)
  else none

end EdgeWorker.Toml
