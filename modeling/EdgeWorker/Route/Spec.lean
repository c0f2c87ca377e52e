import EdgeWorker.Text.Blank
import EdgeWorker.Text.Search
import EdgeWorker.Text.Utf8

/-!
The short form of a route: `function@path=>template`. The first `@` ends the function, the first
`=>` after that ends the path, and every later mark is text.
-/

namespace EdgeWorker.Route

open EdgeWorker.Text

/-- What a route is bound to: a function behind a path, and the template of its answer. -/
structure Spec where
  rpcFunction : Option String
  rpcPath : Option String
  template : Option String
  deriving DecidableEq, Repr, Inhabited

inductive Token where
  | text (cs : List Char)
  | functionMark
  | templateMark
  deriving DecidableEq, Repr

namespace Token

/-- The text that a token was read from. -/
def source : Token → List Char
  | .text cs => cs
  | .functionMark => ['@']
  | .templateMark => ['=', '>']

end Token

/-- What a scan finds in bytes: a text from one byte to another, or a mark. -/
inductive Span where
  | text (start stop : Nat)
  | functionMark
  | templateMark
  deriving DecidableEq, Repr

namespace Span

/-- The text from one byte to another, if there is any. -/
def between (start stop : Nat) : List Span := if start < stop then [.text start stop] else []

/-- The spans of bytes that stand behind `i` others, of which those from `start` on belong to no mark. -/
def scan (start i : Nat) : Bytes → List Span
  | [] => between start i
  | 0x40 :: rest => between start i ++ .functionMark :: scan (i + 1) (i + 1) rest
  | 0x3D :: 0x3E :: rest => between start i ++ .templateMark :: scan (i + 2) (i + 2) rest
  | _ :: rest => scan start (i + 1) rest

/-- The token at a span of a text, unless the span cuts a character. -/
def token? (cs : List Char) : Span → Option Token
  | .text start stop => (slice? start stop cs).map .text
  | .functionMark => some .functionMark
  | .templateMark => some .templateMark

end Span

/-- The tokens of a text, from a scan of its bytes. -/
def Token.ofText? (cs : List Char) : Option (List Token) := (Span.scan 0 0 (utf8 cs)).mapM (Span.token? cs)

/-- The string of a text, none if it is empty. -/
def nonempty (cs : List Char) : Option String :=
  if cs.isEmpty then none else some (String.ofList cs)

/-- A part without the blanks around it, none if nothing is left. -/
def part (cs : List Char) : Option String := nonempty (trim cs)

/-- The part that tokens spell. -/
def partOf (tokens : List Token) : Option String := part (tokens.flatMap Token.source)

namespace Spec

/-- What is written where there is no function. -/
def noFunction : String := "()"

/-- Every part trimmed, empty parts absent, and no function where that is written so. -/
def normalize (spec : Spec) : Spec where
  rpcFunction := (spec.rpcFunction.bind fun s => part s.toList).filter (· ≠ noFunction)
  rpcPath := spec.rpcPath.bind fun s => part s.toList
  template := spec.template.bind fun s => part s.toList

/-- The spec of tokens, before it is normalized. -/
def ofTokens (tokens : List Token) : Spec :=
  let (function, rest) := match cutAt [.functionMark] tokens with
    | some (before, rest) => (partOf before, rest)
    | none => (none, tokens)
  match cutAt [.templateMark] rest with
  | some (before, rest) => ⟨function, partOf before, partOf rest⟩
  | none => ⟨function, partOf rest, none⟩

/-- Reads the short form. Every text is one: the scan cuts no character, so that there are always tokens. -/
def ofText (text : String) : Spec := (ofTokens ((Token.ofText? text.toList).getD [])).normalize

/-- Writes the short form. -/
def text (spec : Spec) : String :=
  let path := spec.rpcFunction.getD noFunction ++ "@" ++ spec.rpcPath.getD ""
  match spec.template with
  | some t => path ++ "=>" ++ t
  | none => path

end Spec
end EdgeWorker.Route
