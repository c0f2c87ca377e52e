import EdgeWorker.Text.Blank
import EdgeWorker.Text.Search
import EdgeWorker.Text.Word

/-!
The references to partials in the source of a template: two opening braces, `>`, a name and two
closing braces, with blanks around the name. A reference that carries parameters is none.
-/

namespace EdgeWorker.Template

/-- The characters of a referenced name. -/
def isNameChar (c : Char) : Bool := Text.isWord c || c == '-'

/-- The name of the reference that a text begins with, and what follows the reference. -/
def reference? (text : List Char) : Option (List Char × List Char) :=
  match Text.after? ['{', '{', '>'] text with
  | none => none
  | some inner =>
    let named := inner.dropWhile Text.isBlank
    let name := named.takeWhile isNameChar
    if name.isEmpty then none
    else (Text.after? ['}', '}'] ((named.dropWhile isNameChar).dropWhile Text.isBlank)).map (name, ·)

theorem length_dropWhile_le {α : Type} (p : α → Bool) (l : List α) :
    (l.dropWhile p).length ≤ l.length :=
  (List.dropWhile_sublist p).length_le

/-- What follows a mark is shorter by the mark. -/
theorem length_after? {mark text rest : List Char} (h : Text.after? mark text = some rest) :
    rest.length + mark.length = text.length := by
  unfold Text.after? at h
  split at h
  · rename_i hp
    have := List.IsPrefix.length_le (List.isPrefixOf_iff_prefix.1 hp)
    cases h
    rw [List.length_drop]
    omega
  · cases h

/-- What follows a reference is shorter than the text that begins with it. -/
theorem length_of_reference? {text name rest : List Char} (h : reference? text = some (name, rest)) :
    rest.length < text.length := by
  unfold reference? at h
  split at h
  · cases h
  · rename_i inner hi
    dsimp only at h
    split at h
    · cases h
    · obtain ⟨tail, ht, he⟩ := Option.map_eq_some_iff.1 h
      cases he
      have h1 := length_after? hi
      have h2 := length_after? ht
      have h3 := length_dropWhile_le Text.isBlank inner
      have h4 := length_dropWhile_le isNameChar (inner.dropWhile Text.isBlank)
      have h5 := length_dropWhile_le Text.isBlank ((inner.dropWhile Text.isBlank).dropWhile isNameChar)
      simp only [List.length_cons, List.length_nil] at h1 h2
      omega

/-- The names of all references in a text, from left to right; no two references overlap. -/
def references : List Char → List String
  | [] => []
  | c :: text =>
    match _h : reference? (c :: text) with
    | some (name, rest) => String.ofList name :: references rest
    | none => references text
termination_by text => text.length
decreasing_by
  · exact length_of_reference? _h
  · simp

/-- The names of the partials that a source refers to, each once, in the order in which they are
first met. -/
def partialNames (source : String) : List String := (references source.toList).eraseDups

end EdgeWorker.Template
