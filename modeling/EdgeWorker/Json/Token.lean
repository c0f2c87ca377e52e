import EdgeWorker.Text.Utf8
import EdgeWorker.Json.Basic

/-!
The tokens of JSON text, read off its bytes one at a time. A number is kept as its digits and a
string as its pieces, so that what they stand for is decided where they are used.
-/

namespace EdgeWorker.Json

open EdgeWorker.Decimal EdgeWorker.Text

/-- A number as written. -/
structure Numeral where
  negative : Bool
  whole : List Nat
  fraction : List Nat
  /-- Whether the exponent is negative, and its digits. -/
  exponent : Option (Bool × List Nat)
  deriving DecidableEq, Repr

/-- A piece of a string: a byte of its text, or the unit of sixteen bits of an escape. -/
inductive Piece where
  | byte (b : UInt8)
  | unit (n : Nat)
  deriving DecidableEq, Repr

inductive Token where
  | openArray
  | closeArray
  | openObject
  | closeObject
  | colon
  | comma
  | null
  | bool (b : Bool)
  | number (n : Numeral)
  | string (pieces : List Piece)
  deriving DecidableEq, Repr

/-! ### Numbers -/

def digit? (b : UInt8) : Option Nat :=
  if 0x30 ≤ b && b ≤ 0x39 then some (b.toNat - 0x30) else none

/-- The digits that bytes begin with, and the rest. -/
def takeDigits : Bytes → List Nat × Bytes
  | [] => ([], [])
  | b :: rest =>
    match digit? b with
    | some d =>
      let (ds, tail) := takeDigits rest
      (d :: ds, tail)
    | none => ([], b :: rest)

/-- The exponent that bytes consist of. -/
def exponent? : Bytes → Option (Option (Bool × List Nat))
  | [] => some none
  | e :: rest =>
    if e == 0x65 || e == 0x45 then
      let (negative, rest) := match rest with
        | 0x2B :: rest => (false, rest)
        | 0x2D :: rest => (true, rest)
        | rest => (false, rest)
      match takeDigits rest with
      | (d :: ds, []) => some (some (negative, d :: ds))
      | _ => none
    else none

/-- The number that bytes are the text of. No zero stands before another digit, and a point has
digits on both sides. -/
def Numeral.ofBytes? (bytes : Bytes) : Option Numeral :=
  let (negative, bytes) := match bytes with
    | 0x2D :: rest => (true, rest)
    | rest => (false, rest)
  match takeDigits bytes with
  | ([], _) => none
  | (0 :: _ :: _, _) => none
  | (whole, 0x2E :: rest) =>
    match takeDigits rest with
    | ([], _) => none
    | (fraction, rest) => (exponent? rest).map fun e => ⟨negative, whole, fraction, e⟩
  | (whole, rest) => (exponent? rest).map fun e => ⟨negative, whole, [], e⟩

/-! ### Strings -/

/-- The byte that an escape of one letter stands for. -/
def escaped? (b : UInt8) : Option UInt8 :=
  if b == 0x22 || b == 0x5C || b == 0x2F then some b
  else if b == 0x62 then some 0x08
  else if b == 0x66 then some 0x0C
  else if b == 0x6E then some 0x0A
  else if b == 0x72 then some 0x0D
  else if b == 0x74 then some 0x09
  else none

def hexValue? (b : UInt8) : Option Nat :=
  if 0x30 ≤ b && b ≤ 0x39 then some (b.toNat - 0x30)
  else if 0x41 ≤ b && b ≤ 0x46 then some (b.toNat - 0x37)
  else if 0x61 ≤ b && b ≤ 0x66 then some (b.toNat - 0x57)
  else none

/-- Whether a unit is the first of a pair. -/
def isHighUnit (n : Nat) : Bool := 0xD800 ≤ n && n ≤ 0xDBFF

/-- Whether a unit is the second of a pair. -/
def isLowUnit (n : Nat) : Bool := 0xDC00 ≤ n && n ≤ 0xDFFF

/-- The bytes of the text that pieces stand for; none if a unit of a pair stands alone. -/
def pieceBytes? : List Piece → Option Bytes
  | [] => some []
  | .byte b :: rest => (pieceBytes? rest).map (b :: ·)
  | .unit n :: rest =>
    if isLowUnit n then none
    else if isHighUnit n then
      match rest with
      | .unit m :: rest =>
        if isLowUnit m then
          (pieceBytes? rest).map (utf8 [Char.ofNat (0x10000 + (n - 0xD800) * 0x400 + (m - 0xDC00))] ++ ·)
        else none
      | _ => none
    else (pieceBytes? rest).map (utf8 [Char.ofNat n] ++ ·)

/-- The text that pieces stand for, if they stand for one. -/
def text? (pieces : List Piece) : Option String := (pieceBytes? pieces).bind ofBytes?

/-! ### The reader -/

/-- What the reader stands in; what it has read of that is kept backwards. -/
inductive Mode where
  | gap
  | string (pieces : List Piece)
  /-- After a backslash. -/
  | escape (pieces : List Piece)
  /-- Within an escape of four digits. -/
  | unit (missing : Nat) (value : Nat) (pieces : List Piece)
  | number (bytes : Bytes)
  | word (bytes : Bytes)

/-- The white space between tokens. -/
def isSpace (b : UInt8) : Bool := b == 0x20 || b == 0x09 || b == 0x0A || b == 0x0D

/-- The bytes that numbers consist of. -/
def isNumeric (b : UInt8) : Bool :=
  (digit? b).isSome || b == 0x2B || b == 0x2D || b == 0x2E || b == 0x45 || b == 0x65

/-- The bytes that words consist of. -/
def isLetter (b : UInt8) : Bool := 0x61 ≤ b && b ≤ 0x7A

/-- The mark that a byte is. -/
def mark? (b : UInt8) : Option Token :=
  if b == 0x5B then some .openArray
  else if b == 0x5D then some .closeArray
  else if b == 0x7B then some .openObject
  else if b == 0x7D then some .closeObject
  else if b == 0x3A then some .colon
  else if b == 0x2C then some .comma
  else none

/-- The word that bytes spell, given backwards. -/
def word? (bytes : Bytes) : Option Token :=
  if bytes.reverse = [0x6E, 0x75, 0x6C, 0x6C] then some .null
  else if bytes.reverse = [0x74, 0x72, 0x75, 0x65] then some (.bool true)
  else if bytes.reverse = [0x66, 0x61, 0x6C, 0x73, 0x65] then some (.bool false)
  else none

/-- The number that bytes spell, given backwards. -/
def number? (bytes : Bytes) : Option Token := (Numeral.ofBytes? bytes.reverse).map .number

/-- What a byte begins between tokens: the token that it is, and the mode after it. -/
def start (b : UInt8) : Option (List Token × Mode) :=
  if isSpace b then some ([], .gap)
  else match mark? b with
    | some token => some ([token], .gap)
    | none =>
      if b == 0x22 then some ([], .string [])
      else if isLetter b then some ([], .word [b])
      else if isNumeric b then some ([], .number [b])
      else none

/-- Reads one byte: the tokens that end before or with it, and the mode after it. -/
def step : Mode → UInt8 → Option (List Token × Mode)
  | .gap, b => start b
  | .string pieces, b =>
    if b == 0x22 then some ([.string pieces.reverse], .gap)
    else if b == 0x5C then some ([], .escape pieces)
    else if b < 0x20 then none
    else some ([], .string (.byte b :: pieces))
  | .escape pieces, b =>
    if b == 0x75 then some ([], .unit 3 0 pieces)
    else (escaped? b).map fun c => ([], .string (.byte c :: pieces))
  | .unit missing value pieces, b =>
    (hexValue? b).map fun d =>
      let value := value * 16 + d
      match missing with
      | 0 => ([], .string (.unit value :: pieces))
      | missing + 1 => ([], .unit missing value pieces)
  | .number bytes, b =>
    if isNumeric b then some ([], .number (b :: bytes))
    else match number? bytes, start b with
      | some token, some (tokens, mode) => some (token :: tokens, mode)
      | _, _ => none
  | .word bytes, b =>
    if isLetter b then some ([], .word (b :: bytes))
    else match word? bytes, start b with
      | some token, some (tokens, mode) => some (token :: tokens, mode)
      | _, _ => none

/-- The tokens that the end of the text completes. -/
def finish : Mode → Option (List Token)
  | .gap => some []
  | .number bytes => (number? bytes).map ([·])
  | .word bytes => (word? bytes).map ([·])
  | _ => none

/-- The tokens of the bytes read from a mode on. -/
def tokensFrom (mode : Mode) : Bytes → Option (List Token)
  | [] => finish mode
  | b :: rest =>
    match step mode b with
    | none => none
    | some (tokens, mode) => (tokensFrom mode rest).map (tokens ++ ·)

def tokens? (bytes : Bytes) : Option (List Token) := tokensFrom .gap bytes

end EdgeWorker.Json
