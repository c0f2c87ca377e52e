/-!
Binary floating-point numbers of 53 bits as exact data: `significand * 2 ^ exponent` with a sign
that zero keeps. A quotient of naturals is rounded to the nearest of them, ties to the even one.
-/

namespace EdgeWorker.Decimal

/-- A finite number of 53 bits. The significand is below `2 ^ 53`, and from `2 ^ 52` on unless the
exponent is the least one. -/
structure Double where
  negative : Bool
  significand : Nat
  exponent : Int
  deriving DecidableEq, Repr, Inhabited

namespace Double

def leastExponent : Int := -1074

def greatestExponent : Int := 971

def zero (negative : Bool) : Double := ⟨negative, 0, leastExponent⟩

/-- The quotient rounded to the nearest natural, a half to the even neighbour. -/
def divNearest (num den : Nat) : Nat :=
  let floor := num / den
  let twice := 2 * (num % den)
  if twice < den || (twice == den && floor % 2 == 0) then floor else floor + 1

/-- `num / den` counted in units of `2 ^ exponent`, to the nearest. -/
def units (num den : Nat) (exponent : Int) : Nat :=
  if 0 ≤ exponent then divNearest num (den <<< exponent.toNat)
  else divNearest (num <<< (-exponent).toNat) den

def ratioBelow (num den : Nat) (exponent : Int) : Bool :=
  if 0 ≤ exponent then num < den <<< exponent.toNat
  else num <<< (-exponent).toNat < den

/-- The number nearest to `num / den`; none if that is beyond the greatest one. -/
def ofRatio (negative : Bool) (num den : Nat) : Option Double :=
  if num == 0 then some (zero negative) else
  let guess : Int := (num.log2 : Int) - den.log2
  let magnitude := if ratioBelow num den guess then guess - 1 else guess
  let exponent := max (magnitude - 52) leastExponent
  let count := units num den exponent
  let (count, exponent) := if count == 1 <<< 53 then (1 <<< 52, exponent + 1) else (count, exponent)
  if greatestExponent < exponent then none else some ⟨negative, count, exponent⟩

/-- The number nearest to a natural. -/
def ofNat (n : Nat) : Option Double := ofRatio false n 1

def num (x : Double) : Nat := x.significand <<< x.exponent.toNat

def den (x : Double) : Nat := 1 <<< (-x.exponent).toNat

/-- The number nearest to the product of the magnitudes; none beyond the greatest one. -/
def mul? (x y : Double) : Option Double :=
  ofRatio (x.negative != y.negative) (x.num * y.num) (x.den * y.den)

/-- The number nearest to the quotient of the magnitudes; none beyond the greatest one. -/
def div? (x y : Double) : Option Double :=
  ofRatio (x.negative != y.negative) (x.num * y.den) (x.den * y.num)

def negate (x : Double) : Double := { x with negative := !x.negative }

def isZero (x : Double) : Bool := x.significand == 0

/-- Whether the significand has its full 53 bits. -/
def isNormal (x : Double) : Bool := 1 <<< 52 ≤ x.significand

/-- Equality as numbers: the two zeros are equal. -/
def same (x y : Double) : Bool := (x.isZero && y.isZero) || x == y

end Double
end EdgeWorker.Decimal
