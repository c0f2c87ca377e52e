import EdgeWorker.Template.Tag
import EdgeWorker.Text.Blank

/-!
Reading a template. A source falls into text and tags, and these are put together one by one: a
tag may take away the blanks around it, and a tag alone in its line takes the line with it.
-/

namespace EdgeWorker.Template

/-! ### Text and tags in turn -/

def keep (c : Char) (read : List Char × List Char) : List Char × List Char := (c :: read.1, read.2)

def opensTag : List Char → Bool
  | '\x7b' :: '\x7b' :: _ => true
  | _ => false

/-- The text up to `stop`, and the rest. A backslash before opening braces makes them text, and of
several backslashes before a tag one is dropped; `run` tells that one already was. -/
def textUntil (stop : List Char) : (run : Bool) → List Char → List Char × List Char
  | _, [] => ([], [])
  | false, '\\' :: '\x7b' :: '\x7b' :: rest =>
    keep '\x7b' <| keep '\x7b' <| match rest with
      | '\x7b' :: '\x7b' :: tail => keep '\x7b' <| keep '\x7b' <| textUntil stop false tail
      | tail => textUntil stop false tail
  | false, '\\' :: '\\' :: rest =>
    if opensTag (rest.dropWhile (· == '\\')) then keep '\\' (textUntil stop true rest)
    else keep '\\' (textUntil stop false ('\\' :: rest))
  | run, c :: rest =>
    if stop.isPrefixOf (c :: rest) then ([], c :: rest)
    else keep c (textUntil stop (run && c == '\\') rest)
termination_by _ text => text.length

/-- A piece of a source. A tag stands with what comes before it, last character first, and with
what comes after it. -/
inductive Piece where
  | text (cs : List Char)
  | verbatim (cs : List Char)
  | tag (t : Placed) (past rest : List Char)

/-- Blanks between the parts of a tag. -/
def isGap (c : Char) : Bool := " \t\n\r".toList.contains c

/-- The pieces of a block whose body is kept as it is, and the rest. -/
def verbatimPieces (depth : Nat) (past text : List Char) : Option (List Piece × List Char) := do
  let (start, place) ← verbatimStart depth ⟨text, true⟩
  let (body, rest) := textUntil (opening ++ opening).toList false (place.rest.dropWhile isGap)
  let (stop, last) ← verbatimEnd ⟨rest, place.sound⟩
  guard last.sound
  let before := (text.take (text.length - rest.length)).reverse ++ past
  return ([.tag start past place.rest, .verbatim body, .tag stop before last.rest], last.rest)

/-- The pieces of a tag, and the rest. -/
def tagPieces (depth : Nat) (past text : List Char) : Option (List Piece × List Char) :=
  match tag depth ⟨text, true⟩ with
  | some (t, place) => if place.sound then some ([.tag t past place.rest], place.rest) else none
  | none => verbatimPieces depth past text

/-- The pieces of a text, given what comes before it, last character first. -/
def piecesFrom (depth : Nat) (past text : List Char) : Option (List Piece) :=
  if text.isEmpty then some []
  else if opensTag text then
    match tagPieces depth past text with
    | some (pieces, rest) =>
      if rest.length < text.length then
        let taken := text.take (text.length - rest.length)
        (piecesFrom depth (taken.reverse ++ past) rest).map (pieces ++ ·)
      else none
    | none => none
  else
    let (cs, rest) := textUntil opening.toList false text
    if rest.length < text.length then
      let taken := text.take (text.length - rest.length)
      (piecesFrom depth (taken.reverse ++ past) rest).map (.text cs :: ·)
    else none
termination_by text.length

def pieces (source : List Char) : Option (List Piece) := piecesFrom source.length [] source

/-! ### Putting pieces together -/

/-- What a block is opened for. -/
inductive Opener where
  | helper
  | decorator
  | inclusion
  deriving DecidableEq

/-- A block that is not closed yet, with the elements around it, last first, and its first body
once `else` was met. -/
structure Open where
  opener : Opener
  call : Call
  names : List String
  around : List Element
  first : Option Template

/-- A template put together in part: the elements of the innermost body, last first, the open
blocks, and whether the text that comes next loses its blanks or the rest of its line. -/
structure Draft where
  elements : List Element
  opened : List Open
  trimNext : Bool
  dropLine : Bool

/-- Blanks within a line. -/
def isMargin (c : Char) : Bool := c == ' ' || c == '\t'

/-- A text without a line of nothing but blanks at its start. -/
def dropEmptyLine (cs : List Char) : List Char :=
  match cs.dropWhile isMargin with
  | '\r' :: '\n' :: rest => rest
  | '\n' :: rest => rest
  | rest => rest

/-- Whether the line ends here, after blanks. -/
def endsLine (rest : List Char) : Bool :=
  match rest.dropWhile isMargin with
  | c :: _ => c == '\n' || c == '\r'
  | [] => false

/-- Whether the line begins here, before blanks; what comes before stands last character first. -/
def beginsLine (past : List Char) : Bool :=
  match past.dropWhile isMargin with
  | c :: _ => c == '\n' || c == '\r'
  | [] => true

/-- Whether a tag stands alone in its line. -/
def standsAlone (past rest : List Char) : Bool := endsLine rest && beginsLine past

/-- Drops the characters of a class at the end of the last text. -/
def trimLast (p : Char → Bool) : List Element → List Element
  | .text cs :: before => .text (Text.dropEnd p cs) :: before
  | elements => elements

namespace Draft

/-- The text as what comes before it leaves it. -/
def trimmed (d : Draft) (cs : List Char) : List Char :=
  if d.trimNext then cs.dropWhile Text.isBlank else if d.dropLine then dropEmptyLine cs else cs

def push (d : Draft) (e : Element) : Draft := { d with elements := e :: d.elements }

/-- Adds a text. Blanks alone leave no trace where the tag before takes them away. -/
def pushText (d : Draft) (cs : List Char) : Draft :=
  if d.trimNext && cs.all isGap then d
  else { d.push (.text (d.trimmed cs)) with dropLine := false }

/-- Takes the line of a tag that stands alone in it. -/
def takeLine (d : Draft) (alone : Bool) : Draft :=
  { d with
    elements := if alone then trimLast isMargin d.elements else d.elements
    dropLine := alone }

def openBlock (d : Draft) (opener : Opener) (call : Call) (names : List String) : Draft :=
  { d with elements := [], opened := ⟨opener, call, names, d.elements, none⟩ :: d.opened }

/-- Begins the second body of a block. -/
def otherwise (d : Draft) : Option Draft :=
  match d.opened with
  | ⟨.helper, call, names, around, none⟩ :: opened =>
    some { d with
      elements := []
      opened := ⟨.helper, call, names, around, some d.elements.reverse⟩ :: opened }
  | _ => none

def isWritten (name : String) : Head → Bool
  | .named n => n.text == name
  | .computed _ => false

/-- The block with its last body. -/
def closed (o : Open) (body : Template) : Element :=
  match o.opener, o.first with
  | .helper, some first => .block o.call o.names first (some body)
  | .helper, none => .block o.call o.names body none
  | .decorator, _ => .decorator o.call (some body)
  | .inclusion, _ => .include o.call [] (some body)

def close (d : Draft) (name : String) (plain : Bool) : Option Draft :=
  match d.opened with
  | o :: opened =>
    if (plain || o.opener == .inclusion) && isWritten name o.call.head then
      some { d with elements := closed o d.elements.reverse :: o.around, opened }
    else none
  | [] => none

def addTag (d : Draft) (t : Placed) (past rest : List Char) : Option Draft :=
  let d := if t.before then { d with elements := trimLast Text.isBlank d.elements } else d
  let alone := standsAlone past rest
  let after := { d with trimNext := t.after }
  match t.tag with
  | .value call escaped => some (after.push (.value call escaped))
  | .openBlock call names => some ((after.takeLine alone).openBlock .helper call names)
  | .openDecorator call => some ((after.takeLine alone).openBlock .decorator call [])
  | .openInclude call => some ((after.takeLine alone).openBlock .inclusion call [])
  | .decorator call => some ((after.takeLine alone).push (.decorator call none))
  | .include call =>
    let indent := if t.before then [] else (past.takeWhile isMargin).reverse
    some ({ after with dropLine := alone }.push (.include call indent none))
  | .otherwise => (after.takeLine alone).otherwise
  | .close name plain => (after.takeLine alone).close name plain
  | .comment => some ((d.takeLine alone).push (.text []))

def add (d : Draft) : Piece → Option Draft
  | .text cs => some (d.pushText cs)
  | .verbatim cs => some (d.push (.text (d.trimmed cs)))
  | .tag t past rest => d.addTag t past rest

end Draft

/-- The template of a source, if it is one. -/
def ofText? (source : String) : Option Template := do
  let d ← (← pieces source.toList).foldlM Draft.add ⟨[], [], false, false⟩
  guard d.opened.isEmpty
  return d.elements.reverse

end EdgeWorker.Template
