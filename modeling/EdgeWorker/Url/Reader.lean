import EdgeWorker.Text.Blank
import EdgeWorker.Url.Basic

/-!
Reading addresses, alone or relative to another one. A text is cut at its first `#` and the first
`?` before that; what is left is a scheme, an authority and a path, in this order and each of them
possibly missing.
-/

namespace EdgeWorker.Url

open EdgeWorker.Text

/-! ### Cutting a text -/

/-- The characters that are dropped at both ends. -/
def isOuterBlank (c : Char) : Bool := c ≤ ' '

/-- The characters that are dropped everywhere. -/
def isLineBreak (c : Char) : Bool := c == '\t' || c == '\n' || c == '\r'

/-- A text without tabs and line breaks. -/
def unbroken (cs : List Char) : List Char := cs.filter fun c => !isLineBreak c

def isSchemeChar (c : Char) : Bool := Ascii.isAlphanumeric c || c == '+' || c == '-' || c == '.'

/-- The scheme that a text begins with, in small letters, and the rest after the colon. -/
def cutScheme? (cs : List Char) : Option (String × List Char) :=
  let name := cs.takeWhile isSchemeChar
  match name, cs.drop name.length with
  | first :: _, ':' :: rest =>
    if Ascii.isLetter first then some (String.ofList (name.map Ascii.toLower), rest) else none
  | _, _ => none

/-- What follows a scheme: everything up to the query, the query and the fragment. -/
structure Parts where
  body : List Char
  query : Option (List Char)
  fragment : Option (List Char)

def Parts.of (cs : List Char) : Parts :=
  let (front, fragment) := match cutAt ['#'] cs with
    | some (front, rest) => (front, some rest)
    | none => (cs, none)
  match cutAt ['?'] front with
  | some (body, query) => ⟨body, some query, fragment⟩
  | none => ⟨front, none, fragment⟩

def Parts.queryText (p : Parts) (scheme : String) : Option String :=
  p.query.map fun q => String.ofList (encode (if isWeb scheme then inSpecialQuerySet else inQuerySet) q)

def Parts.fragmentText (p : Parts) : Option String :=
  p.fragment.map fun f => String.ofList (encode inFragmentSet f)

/-! ### Paths -/

/-- Whether a character separates segments. -/
def isSlash (web : Bool) (c : Char) : Bool := c == '/' || (web && c == '\\')

/-- The pieces of a text between slashes. -/
def pieces (web : Bool) : List Char → List (List Char)
  | [] => [[]]
  | c :: rest =>
    if isSlash web c then [] :: pieces web rest
    else match pieces web rest with
      | piece :: more => (c :: piece) :: more
      | [] => [[c]]

/-- A segment with its encoded dots decoded. -/
def plainDots : List Char → List Char
  | '%' :: '2' :: 'e' :: rest | '%' :: '2' :: 'E' :: rest => '.' :: plainDots rest
  | c :: rest => c :: plainDots rest
  | [] => []

/-- Whether a segment stands for the directory above. -/
def isUp (cs : List Char) : Bool := plainDots cs == ['.', '.']

/-- Whether a segment stands for the directory itself. -/
def isHere (cs : List Char) : Bool := plainDots cs == ['.']

/-- Whether a segment is the letter of a drive. -/
def isDrive (cs : List Char) : Bool :=
  match cs with
  | [c, m] => Ascii.isLetter c && (m == ':' || m == '|')
  | _ => false

/-- Whether a segment is the letter of a drive with a colon. -/
def isColonDrive (s : String) : Bool := isDrive s.toList && s.toList.getLast? == some ':'

/-- The segments without the last one; the letter of a drive stays. -/
def shorten (file : Bool) (ss : List String) : List String :=
  match file, ss with
  | true, [s] => if isColonDrive s then [s] else []
  | _, ss => ss.dropLast

/-- A segment as it is put behind others. -/
def segment (file : Bool) (ss : List String) (piece : List Char) : String :=
  match file && ss.isEmpty && isDrive piece, piece with
  | true, c :: _ => String.ofList [c, ':']
  | _, piece => String.ofList (encode inPathSet piece)

/-- Puts the pieces of a path behind segments. A piece of dots at the end leaves an empty
segment. -/
def follow (file : Bool) : List String → List (List Char) → List String
  | ss, [] => ss
  | ss, [piece] =>
    if isUp piece then shorten file ss ++ [""]
    else if isHere piece then ss ++ [""]
    else ss ++ [segment file ss piece]
  | ss, piece :: rest =>
    if isUp piece then follow file (shorten file ss) rest
    else if isHere piece then follow file ss rest
    else follow file (ss ++ [segment file ss piece]) rest

/-- The segments without empty ones at the beginning; one segment is left. -/
def dropEmpty : List String → List String
  | "" :: s :: rest => dropEmpty (s :: rest)
  | ss => ss

/-- The path that a text behind segments leads to. -/
def pathFrom (scheme : String) (ss : List String) (cs : List Char) : List String :=
  let file := scheme == "file"
  let path := follow file ss (pieces (isWeb scheme) cs)
  if file then dropEmpty path else path

/-- The path of a text on its own. An address of the web always has one. -/
def startPath (scheme : String) (cs : List Char) : List String :=
  match cs with
  | [] => if isWeb scheme then [""] else []
  | c :: rest => if isSlash (isWeb scheme) c then pathFrom scheme [] rest else pathFrom scheme [] (c :: rest)

/-! ### Authorities -/

/-- What stands before the last character of a kind, and what stands after it. -/
def cutLast? (mark : Char) (cs : List Char) : Option (List Char × List Char) :=
  match cutAt [mark] cs.reverse with
  | some (after, before) => some (before.reverse, after.reverse)
  | none => none

/-- The user and the password of a text; an empty password is none. -/
def userOf (cs : List Char) : String × Option String :=
  let write := fun part => String.ofList (encode inUserSet part)
  match cutAt [':'] cs with
  | some (user, []) => (write user, none)
  | some (user, password) => (write user, some (write password))
  | none => (write cs, none)

/-- The host that a text begins with, and the rest; colons within brackets belong to it. -/
def cutHost (inside : Bool) : List Char → List Char × List Char
  | [] => ([], [])
  | c :: rest =>
    if c == ':' && !inside then ([], c :: rest)
    else
      let (host, tail) := cutHost (if c == '[' then true else if c == ']' then false else inside) rest
      (c :: host, tail)

/-- The port of a text, if it has digits and is not the one of the scheme. -/
def portOf (scheme : String) (digits : List Char) : Except UrlError (Option Nat) :=
  let n := digits.foldl (fun n d => n * 10 + (d.toNat - 0x30)) 0
  if 65535 < n then .error .port
  else if digits.isEmpty || defaultPort? scheme == some n then .ok none
  else .ok (some n)

/-- The port behind a host, and what belongs to the path already. -/
def cutPort (scheme : String) (cs : List Char) : Except UrlError (Option Nat × List Char) :=
  match cs with
  | ':' :: rest =>
    let digits := rest.takeWhile Ascii.isDigit
    match portOf scheme digits, rest.drop digits.length with
    | .error e, _ => .error e
    | .ok port, [] => .ok (port, [])
    | .ok port, '\\' :: tail => .ok (port, '\\' :: tail)
    | .ok _, _ => .error .port
  | cs => .ok (none, cs)

/-- The host and the port of a text, and what belongs to the path already. -/
def hostAndPort (scheme : String) (cs : List Char) :
    Except UrlError (List Char × Option Nat × List Char) :=
  let web := isWeb scheme
  let (written, tail) := cutHost false cs
  if written.isEmpty && (web || tail.head? == some ':') then .error .emptyHost
  else match if web then webHost written else otherHost written with
    | .error e => .error e
    | .ok host =>
      match cutPort scheme tail with
      | .error e => .error e
      | .ok (port, rest) => .ok (host, port, rest)

/-- The address of a text that begins with an authority. -/
def withAuthority (scheme : String) (p : Parts) : Except UrlError Url :=
  let authority := p.body.takeWhile fun c => !isSlash (isWeb scheme) c
  let path := p.body.drop authority.length
  let (user, place) := match cutLast? '@' authority with
    | some (user, place) => (some user, place)
    | none => (none, authority)
  let goesOn := !path.isEmpty || p.query.isSome || p.fragment.isSome
  if user == some [] && place.isEmpty && goesOn then .error .emptyHost
  else match hostAndPort scheme place with
    | .error e => .error e
    | .ok (host, port, rest) =>
      let (name, password) := userOf (user.getD [])
      if host.isEmpty && (name != "" || password.isSome) then .error .emptyHost
      else .ok
        { scheme
          authority := some ⟨name, password, String.ofList host, port⟩
          path := .segments (startPath scheme (rest ++ path))
          query := p.queryText scheme
          fragment := p.fragmentText }

/-! ### Files -/

/-- The address of a file. -/
def fileUrl (host : String) (path : List String) (p : Parts) : Url :=
  ⟨"file", some ⟨"", none, host, none⟩, .segments path, p.queryText "file", p.fragmentText⟩

def Path.toSegments : Path → List String
  | .segments ss => ss
  | .flat _ => []

/-- The host of an address, empty if there is none. -/
def hostText (u : Url) : String := (u.host?).getD ""

/-- Whether a text begins with the letter of a drive as a segment. -/
def beginsWithDrive (cs : List Char) : Bool :=
  isDrive (cs.take 2) && match cs.drop 2 with
    | [] => true
    | c :: _ => isSlash true c

/-- The host of a file and its path after two slashes. The letter of a drive is no host. -/
def fileHost (p : Parts) (cs : List Char) : Except UrlError Url :=
  let written := cs.takeWhile fun c => !isSlash true c
  if isDrive written then .ok (fileUrl "" (pathFrom "file" [] cs) p)
  else
    let path := startPath "file" (cs.drop written.length)
    if written.isEmpty then .ok (fileUrl "" path p)
    else match webHost written with
      | .error e => .error e
      | .ok host =>
        let drive := (path.head?.map isColonDrive).getD false
        let host := String.ofList host
        .ok (fileUrl (if host == "localhost" || drive then "" else host) path p)

/-- The address of a file, possibly relative to another one. -/
def readFile (base : Option Url) (p : Parts) : Except UrlError Url :=
  match p.body with
  | a :: b :: rest =>
    if isSlash true a && isSlash true b then fileHost p rest
    else readOne a (b :: rest)
  | [a] => readOne a []
  | [] =>
    match base with
    | some base =>
      .ok { base with
        query := if p.query.isSome then p.queryText "file" else base.query
        fragment := p.fragmentText }
    | none => .ok (fileUrl "" [""] p)
where
  /-- The address of a text that does not begin with two slashes. -/
  readOne (a : Char) (rest : List Char) : Except UrlError Url :=
    if isSlash true a then
      match base, beginsWithDrive rest with
      | some base, false =>
        match base.path.toSegments with
        | first :: _ =>
          if isColonDrive first then .ok (fileUrl "" (pathFrom "file" [first] rest) p)
          else .ok (fileUrl (hostText base) (pathFrom "file" [] rest) p)
        | [] => .ok (fileUrl (hostText base) (pathFrom "file" [] rest) p)
      | _, _ => .ok (fileUrl "" (pathFrom "file" [] rest) p)
    else match base, beginsWithDrive (a :: rest) with
      | some base, false =>
        .ok (fileUrl (hostText base)
          (pathFrom "file" (shorten true base.path.toSegments) (a :: rest)) p)
      | _, _ => .ok (fileUrl "" (pathFrom "file" [] (a :: rest)) p)

/-! ### Addresses -/

/-- The address of a text without a scheme, relative to one that has segments. -/
def readRelative (base : Url) (p : Parts) : Except UrlError Url :=
  let on := fun path : List String =>
    { base with
      path := .segments path
      query := p.queryText base.scheme
      fragment := p.fragmentText : Url }
  match p.body with
  | [] =>
    .ok { base with
      query := if p.query.isSome then p.queryText base.scheme else base.query
      fragment := p.fragmentText }
  | c :: rest =>
    if isSlash true c then
      match c, rest with
      | '/', '/' :: after => withAuthority base.scheme { p with body := after }
      | _, d :: _ =>
        if isSlash true d then
          withAuthority base.scheme { p with body := p.body.dropWhile (isSlash true) }
        else .ok (on (pathFrom base.scheme [] rest))
      | _, [] => .ok (on (pathFrom base.scheme [] rest))
    else .ok (on (pathFrom base.scheme base.path.toSegments.dropLast p.body))

/-- The address of a text after its scheme. -/
def readAbsolute (base : Option Url) (scheme : String) (p : Parts) : Except UrlError Url :=
  let flat : Url := ⟨scheme, none, .flat "", p.queryText scheme, p.fragmentText⟩
  if scheme == "file" then readFile (base.filter (·.scheme == "file")) p
  else if isWeb scheme then
    let slashes := p.body.takeWhile (isSlash true)
    match base.filter (·.scheme == scheme) with
    | some base =>
      if slashes.length < 2 then readRelative base p
      else withAuthority scheme { p with body := p.body.drop slashes.length }
    | none => withAuthority scheme { p with body := p.body.drop slashes.length }
  else match p.body with
    | '/' :: '/' :: rest => withAuthority scheme { p with body := rest }
    | '/' :: rest => .ok { flat with path := .segments (pathFrom scheme [] rest) }
    | body => .ok { flat with path := .flat (String.ofList (encode inControlSet body)) }

/-- The address of a text, relative to `base` where the text has no scheme of its own. -/
def read (base : Option Url) (text : String) : Except UrlError Url :=
  let cs := unbroken (trimBy isOuterBlank text.toList)
  match cutScheme? cs, base with
  | some (scheme, rest), base => readAbsolute base scheme (Parts.of rest)
  | none, none => .error .relativeWithoutBase
  | none, some base =>
    let p := Parts.of cs
    match base.path with
    | .flat _ =>
      if p.body.isEmpty && p.query.isNone && p.fragment.isSome then
        .ok { base with fragment := p.fragmentText }
      else .error .relativeToFlat
    | .segments _ => if base.scheme == "file" then readFile (some base) p else readRelative base p

def ofText (text : String) : Except UrlError Url := read none text

/-- The address that a text leads to from another one. -/
def resolve (base : Url) (text : String) : Except UrlError Url := read (some base) text

/-- The address with another path. Marks of a query or a fragment in it are encoded. -/
def withPath (u : Url) (path : String) : Url :=
  { u with path := .segments (startPath u.scheme (unbroken path.toList)) }

end EdgeWorker.Url
