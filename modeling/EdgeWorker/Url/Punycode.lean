import EdgeWorker.Ascii

/-!
Punycode, the writing of a text with letters and digits alone: first the characters of ASCII, then
the others as the distances between them in order of value, in a base that adapts.
-/

namespace EdgeWorker.Url.Punycode

/-- The letter or digit of a value below 36. -/
def digitChar (d : Nat) : Char := if d < 26 then Char.ofNat (0x61 + d) else Char.ofNat (0x30 + (d - 26))

def digitValue? (c : Char) : Option Nat :=
  if Ascii.isLower c then some (c.toNat - 0x61)
  else if Ascii.isUpper c then some (c.toNat - 0x41)
  else if Ascii.isDigit c then some (c.toNat - 0x30 + 26)
  else none

/-- The threshold of the digit at a position: 1, 2, … of the base. -/
def threshold (k bias : Nat) : Nat := if k ≤ bias + 1 then 1 else min 26 (k - bias)

theorem threshold_pos (k bias : Nat) : 1 ≤ threshold k bias := by
  unfold threshold; split <;> omega

theorem threshold_le (k bias : Nat) : threshold k bias ≤ 26 := by
  unfold threshold; split <;> omega

/-- Divides a distance until it is small, counting the base once for each time. -/
def settle (delta k : Nat) : Nat :=
  if h : 455 < delta then settle (delta / 35) (k + 36) else k + 36 * delta / (delta + 38)
termination_by delta
decreasing_by exact Nat.div_lt_self (by omega) (by omega)

/-- The bias after a distance, with the number of characters written so far. -/
def adapt (delta count : Nat) (first : Bool) : Nat :=
  let delta := if first then delta / 700 else delta / 2
  settle (delta + delta / count) 0

/-- The digits of a distance from a position on. -/
def writeDelta (bias k q : Nat) : List Char :=
  let t := threshold k bias
  if q < t then [digitChar q]
  else digitChar (t + (q - t) % (36 - t)) :: writeDelta bias (k + 36) ((q - t) / (36 - t))
termination_by q
decreasing_by
  have := threshold_pos k bias
  have := threshold_le k bias
  exact Nat.lt_of_le_of_lt (Nat.div_le_self _ _) (by omega)

/-- What a writer has reached. -/
structure Writer where
  written : List Char
  delta : Nat
  bias : Nat
  handled : Nat

/-- Writes the occurrences of one value among the characters of a text. -/
def writeValue (basic value : Nat) (w : Writer) : List Char → Writer
  | [] => { w with delta := w.delta + 1 }
  | c :: rest =>
    if c.toNat < value then writeValue basic value { w with delta := w.delta + 1 } rest
    else if c.toNat = value then
      writeValue basic value
        { written := w.written ++ writeDelta w.bias 36 w.delta
          delta := 0
          bias := adapt w.delta (w.handled + 1) (w.handled == basic)
          handled := w.handled + 1 } rest
    else writeValue basic value w rest

/-- Writes the values in their order, each after the distance from the one before. -/
def writeValues (basic : Nat) (text : List Char) : Writer → Nat → List Nat → Writer
  | w, _, [] => w
  | w, reached, value :: more =>
    let w := { w with delta := w.delta + (value - reached) * (w.handled + 1) }
    writeValues basic text (writeValue basic value w text) (value + 1) more

/-- Drops the values that follow their equals. -/
def distinct : List Nat → List Nat
  | a :: b :: rest => if a = b then distinct (b :: rest) else a :: distinct (b :: rest)
  | short => short

def encode (text : List Char) : List Char :=
  let basic := text.filter (·.toNat < 0x80)
  let others := ((text.filter (0x80 ≤ ·.toNat)).map Char.toNat).mergeSort
  let start := if basic.isEmpty then [] else basic ++ ['-']
  start ++ (writeValues basic.length text ⟨[], 0, 72, basic.length⟩ 0x80 (distinct others)).written

/-- The distance that digits begin with, and the digits after it. -/
def readDelta (bias : Nat) : Nat → Nat → Nat → List Char → Option (Nat × List Char)
  | _, _, _, [] => none
  | i, weight, k, c :: rest =>
    match digitValue? c with
    | none => none
    | some d =>
      let i := i + d * weight
      let t := threshold k bias
      if d < t then some (i, rest) else readDelta bias i (weight * (36 - t)) (k + 36) rest

/-- Puts the characters that digits stand for into a text. Every step reads a digit, so as many
steps as there are digits are enough. -/
def readAll : Nat → List Char → Nat → Nat → Nat → List Char → Option (List Char)
  | _, text, _, _, _, [] => some text
  | 0, _, _, _, _, _ => none
  | steps + 1, text, value, i, bias, cs =>
    match readDelta bias i 1 36 cs with
    | none => none
    | some (next, rest) =>
      let count := text.length + 1
      let value := value + next / count
      let place := next % count
      if 0x10FFFF < value || (0xD800 ≤ value && value ≤ 0xDFFF) then none
      else
        readAll steps (text.take place ++ Char.ofNat value :: text.drop place) value (place + 1)
          (adapt (next - i) count (i == 0)) rest

/-- What stands before the last hyphen, and what stands after it. -/
def cutLast (cs : List Char) : List Char × List Char :=
  let after := (cs.reverse.takeWhile (· != '-')).reverse
  if after.length = cs.length then ([], cs) else (cs.take (cs.length - after.length - 1), after)

def decode? (cs : List Char) : Option (List Char) :=
  let (basic, digits) := cutLast cs
  if basic.all (·.toNat < 0x80) then readAll digits.length basic 0x80 0 72 digits else none

end EdgeWorker.Url.Punycode
