import EdgeWorker.Url.Idna
import EdgeWorker.Url.Percent

/-!
Hosts: domains, addresses of four and of sixteen bytes, and the names of schemes that are not of the
web. A host is kept as it is written in an address.
-/

namespace EdgeWorker.Url

open EdgeWorker.Text

/-- Why a text is no address. -/
inductive UrlError where
  | emptyHost
  | internationalDomain
  | port
  | ipv4
  | ipv6
  | domainCharacter
  | relativeWithoutBase
  | relativeToFlat
  deriving DecidableEq, Repr

def UrlError.message : UrlError → String
  | .emptyHost => "empty host"
  | .internationalDomain => "invalid international domain name"
  | .port => "invalid port number"
  | .ipv4 => "invalid IPv4 address"
  | .ipv6 => "invalid IPv6 address"
  | .domainCharacter => "invalid domain character"
  | .relativeWithoutBase => "relative URL without a base"
  | .relativeToFlat => "relative URL with a cannot-be-a-base base"

/-! ### Addresses of four bytes -/

/-- The number of digits in a base. -/
def inBase? (base : Nat) (cs : List Char) : Option Nat :=
  cs.foldlM (fun n c => match Ascii.hexValue? c with
    | some d => if d < base then some (n * base + d) else none
    | none => none) 0

/-- A part of an address: a number in base ten, in base sixteen after `0x`, in base eight after
another zero. -/
def ipv4Part? (cs : List Char) : Option Nat :=
  match cs with
  | [] => none
  | '0' :: 'x' :: rest | '0' :: 'X' :: rest => inBase? 16 rest
  | '0' :: d :: rest => inBase? 8 (d :: rest)
  | cs => inBase? 10 cs

/-- Whether the last label of a domain is a number, so that the domain has to be an address. -/
def endsInNumber (domain : List Char) : Bool :=
  let last := match (splitOn '.' domain).reverse with
    | [] :: label :: _ => label
    | label :: _ => label
    | [] => []
  !last.isEmpty && (last.all Ascii.isDigit || (ipv4Part? last).isSome)

/-- The address of the parts before the last and the last one, which fills the bytes that are
left. -/
def joinIpv4? (before : List Nat) (last : Nat) : Option Nat :=
  if before.any (255 < ·) || Nat.pow 256 (4 - before.length) ≤ last then none
  else some (before.foldl (fun n p => n * 256 + p) 0 * Nat.pow 256 (4 - before.length) + last)

/-- The address that a domain is. -/
def ipv4? (domain : List Char) : Option Nat :=
  let parts := match (splitOn '.' domain).reverse with
    | [] :: rest => rest
    | parts => parts
  if 4 < parts.length then none
  else match parts.mapM ipv4Part? with
    | some (last :: before) => joinIpv4? before.reverse last
    | _ => none

def writeIpv4 (n : Nat) : List Char :=
  let parts := [n / 0x1000000 % 256, n / 0x10000 % 256, n / 0x100 % 256, n % 256]
  List.intercalate ['.'] (parts.map (Nat.toDigits 10))

/-! ### Addresses of sixteen bytes -/

/-- The pieces read of an address, backwards, and how many of them stand before the gap. -/
structure Pieces where
  read : List Nat
  gap : Option Nat

/-- A piece of up to four digits. -/
def ipv6Piece? (cs : List Char) : Option Nat :=
  if cs.isEmpty || 4 < cs.length then none else inBase? 16 cs

/-- A byte at the end of an address, without a zero before other digits. -/
def byte? (cs : List Char) : Option Nat :=
  match cs with
  | [] => none
  | '0' :: _ :: _ => none
  | cs => (inBase? 10 cs).bind fun n => if n ≤ 255 then some n else none

/-- The two pieces of four bytes in base ten. -/
def ipv4Tail? (cs : List Char) : Option (Nat × Nat) :=
  match (splitOn '.' cs).mapM byte? with
  | some [a, b, c, d] => some (a * 256 + b, c * 256 + d)
  | _ => none

/-- Reads the pieces between colons; the last of them may be four bytes in base ten. An empty piece
is the gap. -/
def readPieces : Pieces → List (List Char) → Option Pieces
  | ps, [] => some ps
  | ps, [last] =>
    if ps.read.length < 8 then
      match ipv6Piece? last with
      | some n => some { ps with read := n :: ps.read }
      | none =>
        if ps.read.length ≤ 6 then
          (ipv4Tail? last).map fun (a, b) => { ps with read := b :: a :: ps.read }
        else none
    else none
  | ps, piece :: rest =>
    if piece.isEmpty then
      if ps.gap.isSome then none
      else
        let ps := { ps with gap := some ps.read.length }
        match rest with
        | [[]] => some ps
        | rest => readPieces ps rest
    else if ps.read.length < 8 then
      match ipv6Piece? piece with
      | some n => readPieces { ps with read := n :: ps.read } rest
      | none => none
    else none

/-- The eight pieces of an address. -/
def ipv6? (cs : List Char) : Option (List Nat) :=
  let begun := match cs with
    | ':' :: ':' :: rest => some (Pieces.mk [] (some 0), splitOn ':' rest)
    | ':' :: _ => none
    | cs => some (Pieces.mk [] none, splitOn ':' cs)
  match begun with
  | none => none
  | some (ps, pieces) =>
    let read := if ps.gap.isSome && pieces == [[]] then some ps else readPieces ps pieces
    match read with
    | none => none
    | some ps =>
      let found := ps.read.reverse
      match ps.gap with
      | some k =>
        if found.length < 8 then
          some (found.take k ++ List.replicate (8 - found.length) 0 ++ found.drop k)
        else none
      | none => if found.length = 8 then some found else none

/-- The length of the run of zeros that a list begins with. -/
def zeros (ps : List Nat) : Nat := (ps.takeWhile (· == 0)).length

/-- The first of the longest runs of zeros, if it is longer than one piece: its place and length. -/
def longestZeros (ps : List Nat) : Option (Nat × Nat) :=
  let runs := (List.range ps.length).map fun i => (i, zeros (ps.drop i))
  let best := runs.foldl (fun best run => if best.2 < run.2 then run else best) (0, 0)
  if 1 < best.2 then some best else none

/-- Pieces between colons. -/
def writePieces (ps : List Nat) : List Char :=
  List.intercalate [':'] (ps.map (Nat.toDigits 16))

/-- The written form of an address; its longest run of zeros is left out. -/
def writeIpv6 (ps : List Nat) : List Char :=
  match longestZeros ps with
  | some (place, length) =>
    writePieces (ps.take place) ++ [':', ':'] ++ writePieces (ps.drop (place + length))
  | none => writePieces ps

/-! ### Hosts -/

/-- The host within brackets. -/
def bracketed (cs : List Char) : Except UrlError (List Char) :=
  match cs.getLast? with
  | some ']' =>
    match ipv6? (cs.drop 1).dropLast with
    | some ps => .ok ('[' :: writeIpv6 ps ++ [']'])
    | none => .error .ipv6
  | _ => .error .ipv6

/-- The host of an address of the web. -/
def webHost (cs : List Char) : Except UrlError (List Char) :=
  if cs.head? == some '[' then bracketed cs
  else match Idna.toAscii? (decodeBytes (utf8 cs)) with
    | none => .error .internationalDomain
    | some [] => .error .emptyHost
    | some domain =>
      if endsInNumber domain then
        match ipv4? domain with
        | some n => .ok (writeIpv4 n)
        | none => .error .ipv4
      else .ok domain

/-- The characters that stand in no host. -/
def isForbiddenInHost (c : Char) : Bool :=
  ['\x00', '\t', '\n', '\r', ' ', '#', '/', ':', '<', '>', '?', '@', '[', '\\', ']', '^', '|'].contains c

/-- The host of an address of another scheme, which may be empty. -/
def otherHost (cs : List Char) : Except UrlError (List Char) :=
  if cs.head? == some '[' then bracketed cs
  else if cs.any isForbiddenInHost then .error .domainCharacter
  else .ok (encode inControlSet cs)

end EdgeWorker.Url
