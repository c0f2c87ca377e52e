/-!
Finding a mark in a text: the cut at its first occurrence, and the pieces between all of them.
-/

namespace EdgeWorker.Text

variable {α : Type} [BEq α]

/-- The rest of a text that begins with `mark`. -/
def after? (mark : List α) (text : List α) : Option (List α) :=
  if mark.isPrefixOf text then some (text.drop mark.length) else none

/-- What stands before the first occurrence of `mark`, and what stands after it. -/
def cutAt (mark : List α) : List α → Option (List α × List α)
  | [] => if mark.isEmpty then some ([], []) else none
  | c :: rest =>
    match after? mark (c :: rest) with
    | some tail => some ([], tail)
    | none => (cutAt mark rest).map fun (before, tail) => (c :: before, tail)

/-- What stands before the first `sep` and what stands after it; all of the text if there is none. -/
def cutOr (sep : α) (text : List α) : List α × List α :=
  (cutAt [sep] text).getD (text, [])

/-- The pieces of a text between the characters `sep`, empty ones included. -/
def splitOn (sep : α) : List α → List (List α)
  | [] => [[]]
  | c :: rest =>
    if c == sep then [] :: splitOn sep rest
    else match splitOn sep rest with
      | piece :: more => (c :: piece) :: more
      | [] => [[c]]

/-- The text up to the first `mark` inclusive is dropped; the text before it too. -/
def dropThrough? (mark : List α) (text : List α) : Option (List α) :=
  (cutAt mark text).map Prod.snd

def contains (part : List α) (text : List α) : Bool := (cutAt part text).isSome

end EdgeWorker.Text
