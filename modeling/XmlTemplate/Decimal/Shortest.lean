import XmlTemplate.Decimal.Binary

/-!
# Shortest decimals

Of all decimals that are read back as a given floating-point number, the ones with the fewest
digits, and of those the one nearest to the number. Between two that are equally near the larger
one is taken.
-/

namespace XmlTemplate.Decimal

/-- The number `digits * 10 ^ exponent`. -/
structure Digits where
  digits : Nat
  exponent : Int
deriving Repr, DecidableEq

/-- The greatest `e` with `10 ^ e ≤ num / den`, for a positive fraction: a quotient with `n` digits
lies between `10 ^ (n - 1)` and `10 ^ n`, and a proper fraction is the inverse of a quotient. -/
def decimalOrder (num den : Nat) : Int :=
  if den ≤ num then (digitCount (num / den) : Int) - 1
  else -(digitCount ((den - 1) / num) : Int)

/-- The reals that round to a floating-point number, measured in quarters of its last place. -/
structure Interval where
  low : Nat
  middle : Nat
  high : Nat
  /-- The ends of the interval round to the number as well. -/
  closed : Bool

/-- Half a place lies on either side of a number, but below a power of two the numbers are twice
as close. A tie is rounded to the even significand. -/
def Interval.ofBinary (x : Binary) : Interval where
  low := 4 * x.significand -
    if x.significand = hiddenBit ∧ leastExponent < x.exponent then 1 else 2
  middle := 4 * x.significand
  high := 4 * x.significand + 2
  closed := x.significand % 2 == 0

/-- Whether `point * step` lies in the interval, whose places are `unit` wide. -/
def Interval.covers (i : Interval) (unit step point : Nat) : Bool :=
  let p := point * step
  if i.closed then i.low * unit ≤ p && p ≤ i.high * unit
  else i.low * unit < p && p < i.high * unit

/-- The multiple of `step` that is nearest to the middle of the interval among its two neighbours
in the interval. -/
def Interval.nearestMultiple? (i : Interval) (unit step : Nat) : Option Nat :=
  let below := i.middle * unit / step
  let rest := i.middle * unit % step
  match i.covers unit step below, i.covers unit step (below + 1) with
  | true, true => some (if 2 * rest < step then below else below + 1)
  | true, false => some below
  | false, true => some (below + 1)
  | false, false => none

/-- The nearest decimal with `count` digits that is read back as the number, if there is one. The
number has `order + 1` places before its decimal point. -/
def withDigits? (x : Binary) (order : Int) (count : Nat) : Option Digits :=
  let exponent := order + 1 - count
  let (unitNum, unitDen) := scaled 1 2 (x.exponent - 2)
  let (stepNum, stepDen) := scaled 1 10 exponent
  -- unit and step over a common denominator
  ((Interval.ofBinary x).nearestMultiple? (unitNum * stepDen) (stepNum * unitDen)).map fun digits =>
    if digits = Nat.pow 10 count then ⟨1, exponent + count⟩ else ⟨digits, exponent⟩

/-- The shortest decimal of a positive number. Seventeen digits always suffice. -/
def shortest (x : Binary) : Digits :=
  let (num, den) := scaled x.significand 2 x.exponent
  let order := decimalOrder num den
  ((List.range' 1 17).findSome? (withDigits? x order)).getD ⟨num / den, 0⟩

end XmlTemplate.Decimal
