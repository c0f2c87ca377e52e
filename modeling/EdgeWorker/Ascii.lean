/-!
Classes of ASCII characters, and letter case within ASCII. Characters beyond ASCII belong to no
class and have no case here, as the grammars of headers and addresses ask.
-/

namespace EdgeWorker.Ascii

def isLower (c : Char) : Bool := 'a' ≤ c && c ≤ 'z'

def isUpper (c : Char) : Bool := 'A' ≤ c && c ≤ 'Z'

def isLetter (c : Char) : Bool := isLower c || isUpper c

def isDigit (c : Char) : Bool := '0' ≤ c && c ≤ '9'

def isAlphanumeric (c : Char) : Bool := isLetter c || isDigit c

/-- The value of a hexadecimal digit. -/
def hexValue? (c : Char) : Option Nat :=
  if isDigit c then some (c.toNat - 0x30)
  else if 'a' ≤ c && c ≤ 'f' then some (c.toNat - 0x57)
  else if 'A' ≤ c && c ≤ 'F' then some (c.toNat - 0x37)
  else none

/-- The small letter of a capital one; every other character itself. -/
def toLower (c : Char) : Char := if isUpper c then Char.ofNat (c.toNat + 0x20) else c

def lower (s : String) : String := String.ofList (s.toList.map toLower)

/-- Equality up to the case of letters. -/
def sameLetters (a b : List Char) : Bool := a.map toLower == b.map toLower

/-- The characters of tokens. -/
def isToken (c : Char) : Bool :=
  isAlphanumeric c || ['!', '#', '$', '%', '&', '\'', '*', '+', '-', '.', '^', '_', '`', '|', '~'].contains c

end EdgeWorker.Ascii
