import EdgeWorker.Text.Search
import EdgeWorker.Url.Percent

/-!
Forms and queries: pairs of a name and a value between ampersands.
-/

namespace EdgeWorker.Url

open EdgeWorker.Text

/-- The text of a name or a value of a form: a plus is a space. -/
def formText (bytes : Bytes) : String :=
  String.ofList (decodeLossy (decodeBytes (bytes.map fun b => if b == 0x2B then 0x20 else b)))

/-- The pairs of a form in their order. Pieces without an equals sign have an empty value, empty
pieces are no pairs. -/
def formPairs (bytes : Bytes) : List (String × String) :=
  ((splitOn 0x26 bytes).filter fun piece => !piece.isEmpty).map fun piece =>
    match cutAt [0x3D] piece with
    | some (name, value) => (formText name, formText value)
    | none => (formText piece, "")

end EdgeWorker.Url
