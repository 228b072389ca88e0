/-!
# Binary floating point

What a floating-point number is, apart from its sign: a significand below `2 ^ 53` times a power of
two. This module takes a number apart in that way and rounds a fraction to the nearest such number.
-/

namespace XmlTemplate.Decimal

/-- The least exponent of a floating-point number. -/
def leastExponent : Int := -1074

/-- The leading bit of a significand of full width, `2 ^ 52`. It is not stored. -/
def hiddenBit : Nat := 0x10000000000000

/-- The bit of the sign in a bit pattern, `2 ^ 63`. -/
def signBit : Nat := 0x8000000000000000

/-- The number `significand * 2 ^ exponent`. -/
structure Binary where
  significand : Nat
  exponent : Int
deriving Repr, DecidableEq

/-- The absolute value of a finite floating-point number. A significand without the hidden bit has
the least exponent. The stored exponent has eleven bits. -/
def Binary.ofFloat (x : Float) : Binary :=
  let bits := x.toBits.toNat
  let stored := bits % hiddenBit
  match bits / hiddenBit % 2048 with
  | 0 => ⟨stored, leastExponent⟩
  | biased + 1 => ⟨hiddenBit + stored, leastExponent + biased⟩

/-- The quotient rounded to the nearest integer, a half to the even neighbour. -/
def roundHalfEven (num den : Nat) : Nat :=
  let quotient := num / den
  let twice := 2 * (num % den)
  if twice < den then quotient
  else if den < twice then quotient + 1
  else quotient + quotient % 2

/-- The numerator and the denominator of `n * base ^ exponent`. -/
def scaled (n base : Nat) (exponent : Int) : Nat × Nat :=
  (n * base.pow exponent.toNat, base.pow (-exponent).toNat)

/-- The greatest `e` with `2 ^ e ≤ num / den`, for a positive fraction. -/
def binaryOrder (num den : Nat) : Int :=
  let guess : Int := (Nat.log2 num : Int) - (Nat.log2 den : Int)
  if den * Nat.pow 2 guess.toNat ≤ num * Nat.pow 2 (-guess).toNat then guess else guess - 1

/-- The bit pattern of infinity. -/
def infinityBits : Nat := 0x7ff0000000000000

/-- The bit pattern of the floating-point number nearest to `num / den`, a tie going to the even
significand. A significand that is rounded up to `2 ^ 53` carries into the exponent, and what is
too large for any exponent is infinite. -/
def nearestBits (num den : Nat) : Nat :=
  if num = 0 then 0
  else
    let exponent := max (binaryOrder num den - 52) leastExponent
    let significand :=
      roundHalfEven (num * Nat.pow 2 (-exponent).toNat) (den * Nat.pow 2 exponent.toNat)
    -- below the hidden bit, the pattern is the significand itself
    if significand < hiddenBit then significand
    else min infinityBits ((exponent - leastExponent).toNat * hiddenBit + significand)

/-- The floating-point number with a sign and a bit pattern for its absolute value. -/
def ofPattern (negative : Bool) (bits : Nat) : Float :=
  .ofBits (.ofNat (bits + if negative then signBit else 0))

/-- Infinity, with a sign. -/
def infinity (negative : Bool) : Float :=
  ofPattern negative infinityBits

/-- The floating-point number with the given sign nearest to `num / den`. -/
def nearest (negative : Bool) (num den : Nat) : Float :=
  ofPattern negative (nearestBits num den)

/-- The floating-point number nearest to an integer. -/
def ofInt (n : Int) : Float :=
  nearest (decide (n < 0)) n.natAbs 1

/-- The number of decimal digits of a positive number, and zero for zero. -/
def digitCount (n : Nat) : Nat :=
  if n = 0 then 0 else (Nat.toDigits 10 n).length

/-- The floating-point number nearest to `digits * 10 ^ exponent`. An order of magnitude far beyond
the range of floating point decides the answer without the power being computed. -/
def ofDigits (negative : Bool) (digits : Nat) (exponent : Int) : Float :=
  let order := exponent + digitCount digits
  if digits = 0 ∨ order < -400 then ofPattern negative 0
  else if 400 < order then infinity negative
  else
    let (num, den) := scaled digits 10 exponent
    nearest negative num den

end XmlTemplate.Decimal
