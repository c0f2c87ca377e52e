import EdgeWorker.Text.Utf8
import EdgeWorker.Url.Idna.Label

/-!
International domain names: every label with characters beyond ASCII is written with the letters,
digits and hyphens of ASCII.
-/

namespace EdgeWorker.Url.Idna

open EdgeWorker.Text

/-- The characters of ASCII that no domain holds. -/
def isForbidden (c : Char) : Bool :=
  c.toNat ≤ 0x20 || c.toNat == 0x7F
    || ['%', '#', '/', ':', '<', '>', '?', '@', '[', '\\', ']', '^', '|'].contains c

/-- Whether a domain in small letters stands for itself: no label is beyond ASCII. -/
def isPlain (domain : List Char) : Bool :=
  domain.all isAscii && (splitOn '.' domain).all fun label => (after? marker label).isNone

/-- The labels of a domain, as the texts that they stand for. -/
def labels? (domain : List Char) : Option (List (List Char)) := do
  let texts ← domain.mapM mapped?
  (splitOn '.' (composed texts.flatten)).mapM readLabel?

/-- Whether labels make a domain. -/
def areLabels (labels : List (List Char)) : Bool :=
  labels.all isLabel && (!labels.any (·.any goesLeft) || labels.all directionFits)

/-- The domain of bytes, written in ASCII; none if they stand for no domain. -/
def toAscii? (bytes : Bytes) : Option (List Char) :=
  match decode? bytes with
  | none => none
  | some cs =>
    let plain := cs.map Ascii.toLower
    if plain.any isForbidden then none
    else if isPlain plain then some plain
    else match labels? cs with
      | none => none
      | some labels =>
        if labels.any (·.any isForbidden) || !areLabels labels then none
        else some (List.intercalate ['.'] (labels.map labelToAscii))

end EdgeWorker.Url.Idna
