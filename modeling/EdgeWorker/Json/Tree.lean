import EdgeWorker.Json.Token

/-!
The tree of a JSON text. It keeps what a text says beyond its value: repeated members and their
order, numbers out of range and strings that stand for no text. A reader that skips a part of a
text never asks whether that part has a value.
-/

namespace EdgeWorker.Json

open EdgeWorker.Decimal

inductive Tree where
  | null
  | bool (b : Bool)
  | number (n : Numeral)
  /-- A string; none if it stands for no text. -/
  | string (s : Option String)
  | array (items : List Tree)
  | object (members : List (Option String × Tree))
  deriving Inhabited

namespace Tree

/-! ### From tokens -/

/-- A container that is not closed yet; what it holds so far is kept backwards. -/
inductive Frame where
  | array (items : List Tree)
  | object (members : List (Option String × Tree))
  /-- An object within the member of a name. -/
  | member (members : List (Option String × Tree)) (key : Option String)

/-- What the next token has to be. -/
inductive Await where
  | value
  | valueOrClose
  | key
  | keyOrClose
  | colon
  /-- A comma or a closing mark; the end of the text if no container is open. -/
  | more

/-- A text read in part: the open containers from the inside out, what comes next, and the value
once it is whole. -/
structure State where
  frames : List Frame
  await : Await
  result : Option Tree

/-- Puts a value that is whole into the innermost container. -/
def place (t : Tree) : List Frame → State
  | .array items :: frames => ⟨.array (t :: items) :: frames, .more, none⟩
  | .member members key :: frames => ⟨.object ((key, t) :: members) :: frames, .more, none⟩
  | frames => ⟨frames, .more, some t⟩

/-- Reads one token where a value may begin. -/
def placeToken (frames : List Frame) : Token → Option State
  | .null => some (place .null frames)
  | .bool b => some (place (.bool b) frames)
  | .number n => some (place (.number n) frames)
  | .string pieces => some (place (.string (text? pieces)) frames)
  | .openArray => some ⟨.array [] :: frames, .valueOrClose, none⟩
  | .openObject => some ⟨.object [] :: frames, .keyOrClose, none⟩
  | _ => none

/-- Closes the innermost container. -/
def close : List Frame → Token → Option State
  | .array items :: frames, .closeArray => some (place (.array items.reverse) frames)
  | .object members :: frames, .closeObject => some (place (.object members.reverse) frames)
  | _, _ => none

/-- Reads the name of a member. -/
def placeKey : List Frame → Token → Option State
  | .object members :: frames, .string pieces =>
    some ⟨.member members (text? pieces) :: frames, .colon, none⟩
  | _, _ => none

def step (s : State) (t : Token) : Option State :=
  match s.await with
  | .value => placeToken s.frames t
  | .valueOrClose => if t = .closeArray then close s.frames t else placeToken s.frames t
  | .key => placeKey s.frames t
  | .keyOrClose => if t = .closeObject then close s.frames t else placeKey s.frames t
  | .colon => if t = .colon then some { s with await := .value } else none
  | .more =>
    match s.frames, t with
    | .array _ :: _, .comma => some { s with await := .value }
    | .object _ :: _, .comma => some { s with await := .key }
    | frames, t => close frames t

def start : State := ⟨[], .value, none⟩

/-- The tree of the tokens, if they are those of one value. -/
def ofTokens? (tokens : List Token) : Option Tree :=
  (tokens.foldlM step start).bind State.result

def ofBytes? (bytes : Bytes) : Option Tree := (tokens? bytes).bind ofTokens?

end Tree

/-! ### Numbers -/

/-- The digits of a number with as many of them as fit into 64 bits, and the power of ten that the
rest stands for. -/
structure Scaled where
  significand : Nat
  exponent : Int

/-- Takes digits in while the significand stays below `2 ^ 64`; the rest is returned. -/
def takeIn (significand : Nat) : List Nat → Nat × List Nat
  | [] => (significand, [])
  | d :: rest =>
    if significand * 10 + d < 1 <<< 64 then takeIn (significand * 10 + d) rest
    else (significand, d :: rest)

/-- The digits of a number before its exponent. -/
def Numeral.scaled (n : Numeral) : Scaled :=
  let (whole, dropped) := takeIn 0 n.whole
  let (all, unread) := takeIn whole n.fraction
  ⟨all, (dropped.length : Int) - (n.fraction.length - unread.length : Nat)⟩

/-- The greatest power of ten by which a significand is scaled in one step. -/
def greatestPower : Nat := 308

/-- Divides by `10 ^ greatestPower` until the rest of the exponent is in reach. A number that has
become zero stays so. -/
def scaleDown (x : Double) : Nat → Int → Option Double
  | 0, _ => some (Double.zero x.negative)
  | steps + 1, exponent =>
    if x.isZero then some x
    else if exponent.natAbs ≤ greatestPower then
      (Double.ofNat (Nat.pow 10 exponent.natAbs)).bind x.div?
    else
      ((Double.ofNat (Nat.pow 10 greatestPower)).bind x.div?).bind fun y =>
        scaleDown y steps (exponent + greatestPower)

/-- The number of a significand and a power of ten: both are rounded before they are multiplied or
divided. -/
def Scaled.toDouble? (s : Scaled) (negative : Bool) : Option Double :=
  (Double.ofRatio negative s.significand 1).bind fun x =>
    if s.exponent < 0 then scaleDown x 4 s.exponent
    else if x.isZero then some x
    else if s.exponent.natAbs ≤ greatestPower then
      (Double.ofNat (Nat.pow 10 s.exponent.natAbs)).bind x.mul?
    else none

/-- The number that digits stand for in base ten. -/
def ofDigits (ds : List Nat) : Nat := ds.foldl (fun n d => n * 10 + d) 0

/-- The value of a number; none if it is out of range. A number without point and exponent that
fits is an integer, negative zero and all others are doubles. -/
def Numeral.value? (n : Numeral) : Option Value :=
  let scaled := n.scaled
  match n.exponent with
  | some (down, ds) =>
    let power := ofDigits ds
    if 1 <<< 31 ≤ power then
      if scaled.significand ≠ 0 && !down then none else some (.double (Double.zero n.negative))
    else
      let exponent := if down then scaled.exponent - power else scaled.exponent + power
      (Scaled.toDouble? ⟨scaled.significand, exponent⟩ n.negative).map .double
  | none =>
    if n.fraction.isEmpty && scaled.exponent = 0
        && (!n.negative || (scaled.significand ≠ 0 && scaled.significand ≤ 1 <<< 63)) then
      some (.int (if n.negative then -(scaled.significand : Int) else scaled.significand))
    else (scaled.toDouble? n.negative).map .double

/-! ### Values -/

namespace Tree

mutual

/-- The value of a tree with at most so many containers within each other. -/
def value? (depth : Nat) : Tree → Option Value
  | .null => some .null
  | .bool b => some (.bool b)
  | .number n => n.value?
  | .string s => s.map .string
  | .array items =>
    match depth with
    | 0 => none
    | depth + 1 => (values? depth items).map .array
  | .object members =>
    match depth with
    | 0 => none
    | depth + 1 => (memberValues? depth members).map Value.ofMembers

def values? (depth : Nat) : List Tree → Option (List Value)
  | [] => some []
  | t :: rest =>
    match value? depth t, values? depth rest with
    | some v, some vs => some (v :: vs)
    | _, _ => none

/-- The values of the members of an object, repeated ones included. -/
def memberValues? (depth : Nat) : List (Option String × Tree) → Option (List (String × Value))
  | [] => some []
  | (key, t) :: rest =>
    match key, value? depth t, memberValues? depth rest with
    | some k, some v, some vs => some ((k, v) :: vs)
    | _, _, _ => none

end

/-- How many containers may stand within each other. -/
def maxDepth : Nat := 127

end Tree

def Value.ofBytes? (bytes : Bytes) : Option Value :=
  (Tree.ofBytes? bytes).bind (Tree.value? Tree.maxDepth)

def Value.ofText? (text : String) : Option Value := Value.ofBytes? (Text.bytes text)

end EdgeWorker.Json
