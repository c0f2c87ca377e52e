import EdgeWorker.Ascii
import EdgeWorker.Keyed
import EdgeWorker.Text.Utf8

/-!
Header fields. Names are tokens in small letters; the fields of one name stand together, names in
the order of their first field and the values of a name in the order of its fields.
-/

namespace EdgeWorker.Http

open EdgeWorker.Text

def maxNameLength : Nat := 65535

def isName (cs : List Char) : Bool :=
  !cs.isEmpty && cs.length ≤ maxNameLength && cs.all fun c => Ascii.isToken c && !Ascii.isUpper c

structure HeaderName where
  text : String
  valid : isName text.toList = true
  deriving DecidableEq

/-- The name that a text stands for; capital letters are made small. -/
def HeaderName.ofText? (text : String) : Option HeaderName :=
  if h : isName (Ascii.lower text).toList = true then some ⟨Ascii.lower text, h⟩ else none

/-- The bytes of field values: no controls but the tab. -/
def isFieldByte (b : UInt8) : Bool := (0x20 ≤ b && b != 0x7F) || b == 0x09

structure HeaderValue where
  bytes : Bytes
  valid : bytes.all isFieldByte = true
  deriving DecidableEq

def HeaderValue.ofBytes? (bytes : Bytes) : Option HeaderValue :=
  if h : bytes.all isFieldByte = true then some ⟨bytes, h⟩ else none

def HeaderValue.ofText? (text : String) : Option HeaderValue := ofBytes? (Text.bytes text)

/-- The bytes of values that are read as text: printable ASCII and the tab. -/
def isTextByte (b : UInt8) : Bool := (0x20 ≤ b && b < 0x7F) || b == 0x09

/-- The text of a value, if it is printable ASCII. -/
def HeaderValue.text? (v : HeaderValue) : Option String :=
  if v.bytes.all isTextByte then some (String.ofList (v.bytes.map fun b => Char.ofNat b.toNat)) else none

/-- The fields of a message: the first value of each name, and the others. -/
abbrev Headers := Keyed HeaderName (HeaderValue × List HeaderValue)

namespace Headers

def append (hs : Headers) (name : HeaderName) (value : HeaderValue) : Headers :=
  hs.alter name fun
    | some (first, more) => (first, more ++ [value])
    | none => (value, [])

def insert (hs : Headers) (name : HeaderName) (value : HeaderValue) : Headers :=
  hs.put name (value, [])

def fields (hs : Headers) : List (HeaderName × HeaderValue) :=
  hs.entries.flatMap fun (name, first, more) => (first :: more).map fun v => (name, v)

def first? (hs : Headers) (name : HeaderName) : Option HeaderValue := (hs.get? name).map Prod.fst

/-- The first value of a name given in any case, if it is printable ASCII. -/
def text? (hs : Headers) (name : String) : Option String :=
  ((HeaderName.ofText? name).bind hs.first?).bind HeaderValue.text?

/-- The headers of fields added one after another. -/
def ofFields (fs : List (HeaderName × HeaderValue)) : Headers :=
  fs.foldl (fun hs (name, value) => hs.append name value) Keyed.empty

end Headers
end EdgeWorker.Http
