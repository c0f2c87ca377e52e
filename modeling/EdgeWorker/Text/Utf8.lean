/-!
UTF-8 over lists of bytes: writing a text, reading one with the place and size of the first
fault, and reading with a replacement character for every fault; and texts cut at bytes.
-/

namespace EdgeWorker

abbrev Bytes := List UInt8

namespace Text

def utf8 (cs : List Char) : Bytes := cs.flatMap String.utf8EncodeChar

def bytes (s : String) : Bytes := utf8 s.toList

/-- The bytes that continue a sequence. -/
def isTail (b : UInt8) : Bool := 0x80 ≤ b && b ≤ 0xBF

/-- How many bytes follow a leading byte, and the range of the first of them. -/
def follow (b : UInt8) : Option (Nat × UInt8 × UInt8) :=
  if 0xC2 ≤ b && b ≤ 0xDF then some (1, 0x80, 0xBF)
  else if b == 0xE0 then some (2, 0xA0, 0xBF)
  else if b == 0xED then some (2, 0x80, 0x9F)
  else if 0xE1 ≤ b && b ≤ 0xEF then some (2, 0x80, 0xBF)
  else if b == 0xF0 then some (3, 0x90, 0xBF)
  else if b == 0xF4 then some (3, 0x80, 0x8F)
  else if 0xF1 ≤ b && b ≤ 0xF3 then some (3, 0x80, 0xBF)
  else none

/-- What a byte string that is not empty begins with. -/
inductive Lead where
  /-- A character of so many bytes. -/
  | char (c : Char) (size : Nat)
  /-- So many bytes that begin no character. -/
  | fault (size : Nat)
  /-- The beginning of a character that the end cuts off. -/
  | cut

/-- The low six bits of a continuation byte under the bits read before it. -/
def join (high : Nat) (b : UInt8) : Nat := high * 64 + b.toNat % 64

/-- What the bytes `a :: rest` begin with. A fault takes the bytes that could still have begun a
character. -/
def lead (a : UInt8) (rest : Bytes) : Lead :=
  if a < 0x80 then .char (Char.ofNat a.toNat) 1
  else match follow a with
    | none => .fault 1
    | some (n, low, high) =>
      match rest with
      | [] => .cut
      | b :: rest =>
        if b < low || high < b then .fault 1
        else if n == 1 then .char (Char.ofNat (join (a.toNat % 32) b)) 2
        else match rest with
          | [] => .cut
          | c :: rest =>
            if !isTail c then .fault 2
            else if n == 2 then .char (Char.ofNat (join (join (a.toNat % 16) b) c)) 3
            else match rest with
              | [] => .cut
              | d :: _ =>
                if !isTail d then .fault 3
                else .char (Char.ofNat (join (join (join (a.toNat % 8) b) c) d)) 4

inductive Utf8Error where
  /-- `size` bytes at `index` begin no character. -/
  | invalid (size index : Nat)
  /-- The text ends within the character at `index`. -/
  | incomplete (index : Nat)
  deriving DecidableEq, Repr

def Utf8Error.message : Utf8Error → String
  | .invalid size index => s!"invalid utf-8 sequence of {size} bytes from index {index}"
  | .incomplete index => s!"incomplete utf-8 byte sequence from index {index}"

/-- Reads the bytes that follow `index` earlier ones. -/
def decodeFrom (index : Nat) : Bytes → Except Utf8Error (List Char)
  | [] => .ok []
  | a :: rest =>
    match lead a rest with
    | .char c size =>
      match decodeFrom (index + size) (rest.drop (size - 1)) with
      | .ok cs => .ok (c :: cs)
      | .error e => .error e
    | .fault size => .error (.invalid size index)
    | .cut => .error (.incomplete index)
termination_by bytes => bytes.length
decreasing_by simp only [List.length_drop, List.length_cons]; omega

/-- The text that bytes stand for, or the first fault in them. -/
def decode (bytes : Bytes) : Except Utf8Error (List Char) := decodeFrom 0 bytes

def decode? (bytes : Bytes) : Option (List Char) := (decode bytes).toOption

/-- The string that bytes stand for, or the first fault in them. -/
def ofBytes (bytes : Bytes) : Except Utf8Error String := (decode bytes).map String.ofList

def ofBytes? (bytes : Bytes) : Option String := (ofBytes bytes).toOption

/-- The text of bytes, with a replacement character for every fault. -/
def decodeLossy : Bytes → List Char
  | [] => []
  | a :: rest =>
    match lead a rest with
    | .char c size => c :: decodeLossy (rest.drop (size - 1))
    | .fault size => '\uFFFD' :: decodeLossy (rest.drop (size - 1))
    | .cut => ['\uFFFD']
termination_by bytes => bytes.length
decreasing_by all_goals (simp only [List.length_drop, List.length_cons]; omega)

/-- A text cut behind its first `n` bytes, unless they end inside a character or the text is shorter. -/
def cutByte? : Nat → List Char → Option (List Char × List Char)
  | 0, cs => some ([], cs)
  | _ + 1, [] => none
  | n + 1, c :: cs =>
    if c.utf8Size ≤ n + 1 then (cutByte? (n + 1 - c.utf8Size) cs).map fun (front, back) => (c :: front, back)
    else none

/-- What stands in a text from one byte to another. -/
def slice? (start stop : Nat) (cs : List Char) : Option (List Char) :=
  if start ≤ stop then do
    let (_, back) ← cutByte? start cs
    let (middle, _) ← cutByte? (stop - start) back
    some middle
  else none

end Text
end EdgeWorker
