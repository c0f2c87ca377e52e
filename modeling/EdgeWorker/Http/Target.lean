import EdgeWorker.Ascii
import EdgeWorker.Text.Search
import EdgeWorker.Text.Utf8

/-!
The target of a request: an absolute address, a path with a query, an authority alone, or an
asterisk. Nothing is encoded anew; a fragment is dropped.
-/

namespace EdgeWorker.Http

open EdgeWorker.Text

/-- A request target. Texts that are absent are empty, a query apart. -/
structure Target where
  scheme : Option String
  authority : String
  rawPath : String
  query : Option String
  deriving DecidableEq, Repr

/-- Why a text is no request target. -/
inductive TargetError where
  | empty
  | tooLong
  | schemeTooLong
  | invalidCharacter
  | invalidAuthority
  | invalidFormat
  deriving DecidableEq, Repr

def TargetError.message : TargetError → String
  | .empty => "empty string"
  | .tooLong => "uri too long"
  | .schemeTooLong => "scheme too long"
  | .invalidCharacter => "invalid uri character"
  | .invalidAuthority => "invalid authority"
  | .invalidFormat => "invalid format"

namespace Target

/-- The greatest number of bytes of a target. -/
def maxSize : Nat := 65534

def maxScheme : Nat := 64

/-! ### Schemes -/

def isSchemeChar (c : Char) : Bool := Ascii.isAlphanumeric c || c == '+' || c == '-' || c == '.'

/-- Takes a text that begins like `mark` in any case of letters. -/
def afterLetters? (mark : String) (cs : List Char) : Option (List Char) :=
  let n := mark.toList.length
  if Ascii.sameLetters (cs.take n) mark.toList then some (cs.drop n) else none

/-- The scheme that a text begins with, and the rest after its slashes. The schemes of the web are
written in small letters, all others stay as they are. -/
def cutScheme (cs : List Char) : Except TargetError (Option String × List Char) :=
  match afterLetters? "http://" cs with
  | some rest => .ok (some "http", rest)
  | none =>
    match afterLetters? "https://" cs with
    | some rest => .ok (some "https", rest)
    | none =>
      let name := cs.takeWhile isSchemeChar
      match after? [':', '/', '/'] (cs.drop name.length) with
      | none => .ok (none, cs)
      | some rest =>
        if cs.length ≤ 3 then .ok (none, cs)
        else if maxScheme < name.length then .error .schemeTooLong
        else .ok (some (String.ofList name), rest)

/-! ### Authorities -/

def isAuthorityChar (c : Char) : Bool :=
  Ascii.isAlphanumeric c
    || ['!', '$', '&', '\'', '(', ')', '*', '+', ',', '-', '.', ':', ';', '=', '@', '[', ']', '_', '~'].contains c

/-- The characters before which an authority ends. -/
def endsAuthority (c : Char) : Bool := c == '/' || c == '?' || c == '#'

/-- What has been seen of an authority. -/
structure Seen where
  colons : Nat
  opened : Bool
  closed : Bool
  percent : Bool
  /-- Whether the last character was an at sign. -/
  signLast : Bool

def maxColons : Nat := 8

/-- Reads one character of an authority. What was counted before an at sign or a closing bracket
is no port. -/
def see (s : Seen) (c : Char) : Except TargetError Seen :=
  let s := { s with signLast := false }
  if c == '%' then .ok { s with percent := true }
  else if !isAuthorityChar c then .error .invalidCharacter
  else if c == ':' then
    if maxColons ≤ s.colons then .error .invalidAuthority else .ok { s with colons := s.colons + 1 }
  else if c == '[' then
    if s.percent || s.opened then .error .invalidAuthority else .ok { s with opened := true }
  else if c == ']' then
    if !s.opened || s.closed then .error .invalidAuthority
    else .ok { s with closed := true, colons := 0, percent := false }
  else if c == '@' then .ok { s with colons := 0, percent := false, signLast := true }
  else .ok s

/-- Whether the characters form an authority, which may be empty. -/
def checkAuthority (cs : List Char) : Except TargetError Unit :=
  match cs.foldlM see ⟨0, false, false, false, false⟩ with
  | .error e => .error e
  | .ok s =>
    if s.opened != s.closed || 1 < s.colons || s.signLast || s.percent then .error .invalidAuthority
    else .ok ()

/-- The authority that a text begins with, and the rest. -/
def cutAuthority (cs : List Char) : Except TargetError (List Char × List Char) :=
  let authority := cs.takeWhile fun c => !endsAuthority c
  match checkAuthority authority with
  | .error e => .error e
  | .ok () => .ok (authority, cs.drop authority.length)

/-! ### Paths -/

def isPathChar (c : Char) : Bool :=
  let n := c.toNat
  n == 0x21 || n == 0x22 || (0x24 ≤ n && n ≤ 0x3B) || n == 0x3D || (0x40 ≤ n && n ≤ 0x5F)
    || (0x61 ≤ n && n ≤ 0x7E) || 0x7F ≤ n

def isQueryChar (c : Char) : Bool :=
  let n := c.toNat
  n == 0x21 || (0x24 ≤ n && n ≤ 0x3B) || n == 0x3D || 0x3F ≤ n

/-- The path and the query of a text, which may be empty; what follows a number sign is dropped. -/
def readPath (scheme : Option String) (authority : List Char) (cs : List Char) :
    Except TargetError Target :=
  let path := cs.takeWhile fun c => c != '?' && c != '#'
  if !path.all isPathChar then .error .invalidCharacter
  else
    let target := fun q => Target.mk scheme (String.ofList authority) (String.ofList path) q
    match cs.drop path.length with
    | '?' :: rest =>
      let query := rest.takeWhile (· != '#')
      if query.all isQueryChar then .ok (target (some (String.ofList query)))
      else .error .invalidCharacter
    | _ => .ok (target none)

/-! ### Targets -/

def ofText (text : String) : Except TargetError Target :=
  let cs := text.toList
  if maxSize < (utf8 cs).length then .error .tooLong
  else match cs with
    | [] => .error .empty
    | ['*'] => .ok ⟨none, "", "*", none⟩
    | '/' :: _ => readPath none [] cs
    | _ =>
      match cutScheme cs with
      | .error e => .error e
      | .ok (scheme, rest) =>
        match cutAuthority rest with
        | .error e => .error e
        | .ok (authority, rest) =>
          match scheme with
          | none =>
            if rest.isEmpty then .ok ⟨none, String.ofList authority, "", none⟩
            else if cs.length = 1 then .error .invalidCharacter
            else .error .invalidFormat
          | some _ => if authority.isEmpty then .error .invalidFormat else readPath scheme authority rest

/-- Whether the target has a place for a path: all but an authority alone. -/
def hasPath (t : Target) : Bool := t.rawPath != "" || t.query.isSome || t.scheme.isSome

/-- The path; a slash where there is a place for it and nothing in it. -/
def path (t : Target) : String := if t.hasPath && t.rawPath == "" then "/" else t.rawPath

/-- The path with the query behind it as they were written; a slash for neither. None for an
authority alone. -/
def pathAndQuery? (t : Target) : Option String :=
  if t.scheme.isSome || t.authority == "" then
    let written := t.rawPath ++ match t.query with
      | some q => "?" ++ q
      | none => ""
    some (if written == "" then "/" else written)
  else none

def text (t : Target) : String :=
  (match t.scheme with
    | some s => s ++ "://"
    | none => "") ++ t.authority ++ t.path ++ match t.query with
    | some q => "?" ++ q
    | none => ""

/-- Takes what a text begins with, letters in any case. -/
def takeLetters? (part : String) (cs : List Char) : Option (List Char) := afterLetters? part cs

/-- Whether a text is an address of the target. Letters before the path may differ in case, a path
that is only a slash may be missing, and a fragment may follow. -/
def isAddressedBy (t : Target) (address : String) : Bool :=
  let begun := match t.scheme with
    | some s => (takeLetters? s address.toList).bind (after? [':', '/', '/'])
    | none => some address.toList
  let begun := if t.authority == "" then begun else begun.bind (takeLetters? t.authority)
  let absolute := t.scheme.isSome || t.authority != ""
  match begun with
  | none => false
  | some cs =>
    let pathRead := match after? t.path.toList cs with
      | some rest => some rest
      | none => if absolute && t.path == "/" then some cs else none
    let queryRead := match t.query, pathRead with
      | some q, some [] => if q == "" then some [] else none
      | some q, some ('?' :: rest) => after? q.toList rest
      | some _, _ => none
      | none, read => read
    match queryRead with
    | some [] => true
    | some (c :: _) => c == '#'
    | none => false

end Target
end EdgeWorker.Http
