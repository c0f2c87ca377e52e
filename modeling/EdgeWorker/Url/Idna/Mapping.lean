import EdgeWorker.Text.Runs
import EdgeWorker.Url.Idna.MappingTable

/-!
What the characters of a domain stand for. Domains that differ only in the case or the width of
their letters are one domain, so most characters beyond the small letters stand for others.
-/

namespace EdgeWorker.Url.Idna

open EdgeWorker.Text

/-- The runs of characters by what they stand for. -/
def mappingRuns : List Run := runs mappingTable

/-- A text of a list: its code points stand between plus signs. -/
def listedText (cs : List Char) : List Char :=
  (splitOn '+' cs).map fun digits => Char.ofNat (hexNumber digits)

/-- The text that a character stands for; none if it is no part of a domain. -/
def mapped? (c : Char) : Option (List Char) :=
  let run := runOf mappingRuns c
  let place := c.toNat - run.first
  match run.label with
  | ['v'] => some [c]
  | ['i'] => some []
  | ['a'] => some [if place % 2 = 0 then Char.ofNat (c.toNat + 1) else c]
  | '>' :: digits => some [Char.ofNat (hexNumber digits + place)]
  | '=' :: texts => (splitOn '.' texts)[place]?.map listedText
  | _ => none

end EdgeWorker.Url.Idna
