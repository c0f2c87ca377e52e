import EdgeWorker.Ascii
import EdgeWorker.Text.Utf8

/-!
Percent encoding: the characters that each part of an address encodes, and decoding, which leaves a
sign that is not followed by two digits as it is.
-/

namespace EdgeWorker.Url

open EdgeWorker.Text

/-- The digit of four bits, letters large. -/
def hexLetter (n : Nat) : Char := if n < 10 then Char.ofNat (0x30 + n) else Char.ofNat (0x37 + n)

/-- The encoded form of a byte. -/
def percent (b : UInt8) : List Char := ['%', hexLetter (b.toNat / 16), hexLetter (b.toNat % 16)]

/-- The controls, and everything beyond ASCII. -/
def inControlSet (c : Char) : Bool := c.toNat < 0x20 || 0x7E < c.toNat

def inFragmentSet (c : Char) : Bool := inControlSet c || [' ', '"', '<', '>', '`'].contains c

def inPathSet (c : Char) : Bool := inFragmentSet c || ['#', '?', '{', '}'].contains c

def inUserSet (c : Char) : Bool :=
  inPathSet c || ['/', ':', ';', '=', '@', '[', '\\', ']', '^', '|'].contains c

def inQuerySet (c : Char) : Bool := inControlSet c || [' ', '"', '#', '<', '>'].contains c

/-- What the queries of the schemes of the web encode. -/
def inSpecialQuerySet (c : Char) : Bool := inQuerySet c || c == '\''

/-- Encodes the characters of a set, byte by byte. -/
def encode (inSet : Char → Bool) (cs : List Char) : List Char :=
  cs.flatMap fun c => if inSet c then (utf8 [c]).flatMap percent else [c]

/-- The bytes of a text with its encoded bytes decoded. -/
def decodeBytes : Bytes → Bytes
  | [] => []
  | [b] => [b]
  | [b, c] => [b, c]
  | b :: c :: d :: rest =>
    if b == 0x25 then
      match Ascii.hexValue? (Char.ofNat c.toNat), Ascii.hexValue? (Char.ofNat d.toNat) with
      | some high, some low => UInt8.ofNat (high * 16 + low) :: decodeBytes rest
      | _, _ => b :: decodeBytes (c :: d :: rest)
    else b :: decodeBytes (c :: d :: rest)

end EdgeWorker.Url
