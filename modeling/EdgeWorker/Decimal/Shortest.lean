import EdgeWorker.Decimal.Double

/-!
The shortest decimal of a binary number: of all decimals that are nearest to that number and no
other, one with the fewest digits, and among these the nearest.
-/

namespace EdgeWorker.Decimal

/-- The decimal `coefficient * 10 ^ exponent`. -/
structure Scaled where
  coefficient : Nat
  exponent : Int
  deriving DecidableEq, Repr

namespace Double

/-- The numbers between which every decimal reads back as `x`, and `x` itself, all counted in the
unit `1 / scale`; `closed` tells whether the two ends read back too. -/
structure Interval where
  low : Nat
  mid : Nat
  high : Nat
  scale : Nat
  closed : Bool

def interval (x : Double) : Interval :=
  let up := 1 <<< x.exponent.toNat
  let narrow := x.significand == 1 <<< 52 && leastExponent < x.exponent
  { low := (4 * x.significand - (if narrow then 1 else 2)) * up
    mid := 4 * x.significand * up
    high := (4 * x.significand + 2) * up
    scale := 4 <<< (-x.exponent).toNat
    closed := x.significand % 2 == 0 }

def Interval.holds (i : Interval) (num den : Nat) : Bool :=
  let value := num * i.scale
  if i.closed then i.low * den ≤ value && value ≤ i.high * den
  else i.low * den < value && value < i.high * den

/-- The distance of `num / den` from the middle, in a unit fixed by `den`. -/
def Interval.distance (i : Interval) (num den : Nat) : Nat :=
  let a := num * i.scale
  let b := i.mid * den
  if a ≤ b then b - a else a - b

/-- The neighbour of the middle on the grid of multiples of `10 ^ exponent` that lies in the
interval, the nearer if both do, the even one if they are equally near. -/
def Interval.onGrid? (i : Interval) (exponent : Int) : Option Scaled :=
  let up := Nat.pow 10 exponent.toNat
  let den := Nat.pow 10 (-exponent).toNat
  let below := i.mid * den / (i.scale * up)
  let above := below + 1
  let hitBelow := i.holds (below * up) den
  let hitAbove := i.holds (above * up) den
  if hitBelow && hitAbove then
    let near := i.distance (below * up) den
    let far := i.distance (above * up) den
    some ⟨if near < far || (near == far && below % 2 == 0) then below else above, exponent⟩
  else if hitBelow then some ⟨below, exponent⟩
  else if hitAbove then some ⟨above, exponent⟩
  else none

/-- The first decimal found on the grids that begin at `exponent` and each are ten times finer than
the one before. -/
def Interval.firstOnGrid (i : Interval) : Nat → Int → Scaled
  | 0, exponent => ⟨i.mid / i.scale, exponent⟩
  | steps + 1, exponent =>
    match i.onGrid? exponent with
    | some d => d
    | none => i.firstOnGrid steps (exponent - 1)

/-- The least `k` with `num < 10 ^ k * den`, searched upwards from `k`. -/
def decimalAbove (num den : Nat) : Nat → Int → Int
  | 0, k => k
  | steps + 1, k =>
    if num * Nat.pow 10 (-k).toNat < Nat.pow 10 k.toNat * den then k else decimalAbove num den steps (k + 1)

/-- A power of ten that is greater than the number, by less than a factor of a hundred. -/
def magnitude (x : Double) : Int :=
  let bits : Int := (x.significand.log2 : Int) + x.exponent
  decimalAbove x.num x.den 4 (bits * 30103 / 100000)

/-- The shortest decimal that reads back as the magnitude of `x`. -/
def shortest (x : Double) : Scaled :=
  if x.isZero then ⟨0, 0⟩ else x.interval.firstOnGrid 20 x.magnitude

end Double

def digits (n : Nat) : List Char := Nat.toDigits 10 n

def Scaled.strip (d : Scaled) : List Char × Int :=
  let all := digits d.coefficient
  let kept := (all.reverse.dropWhile (· == '0')).reverse
  (kept, d.exponent + (all.length - kept.length : Nat))

/-- How a number is written: plainly where the exponent of its first digit is in the range, with
an exponent that has its sign elsewhere. -/
structure Layout where
  least : Int
  greatest : Int

def Layout.write (layout : Layout) (ds : List Char) (last : Int) : List Char :=
  let first : Int := last + ds.length - 1
  if layout.least ≤ first && first ≤ layout.greatest then
    if 0 ≤ last then ds ++ List.replicate last.toNat '0' ++ ['.', '0']
    else if 0 ≤ first then
      ds.take (first.toNat + 1) ++ '.' :: ds.drop (first.toNat + 1)
    else '0' :: '.' :: List.replicate (-first - 1).toNat '0' ++ ds
  else
    let mantissa := match ds with
      | d :: e :: more => d :: '.' :: e :: more
      | short => short
    let sign := if first < 0 then '-' else '+'
    mantissa ++ 'e' :: sign :: digits first.natAbs

/-- Numbers are plain from the fifth place after the point to the sixteenth before it. -/
def plain : Layout := ⟨-5, 15⟩

/-- The written form of a number: the shortest digits, with a point or an exponent always. -/
def Double.write (x : Double) : List Char :=
  let body :=
    if x.isZero then ['0', '.', '0']
    else
      let (ds, last) := x.shortest.strip
      plain.write ds last
  if x.negative then '-' :: body else body

end EdgeWorker.Decimal
