import XmlTemplate.Decimal.Binary

/-!
# Decimal literals

A decimal literal is an optional sign, digits with at most one point among them and at least one
digit, and optionally an `e` or `E` with an optionally signed exponent.
-/

namespace XmlTemplate.Decimal

/-- The number that a text of decimal digits denotes. -/
def digitsValue (digits : List Char) : Nat :=
  digits.foldl (fun n c => 10 * n + (c.toNat - '0'.toNat)) 0

/-- An optional sign and what follows it; the sign says whether the number is negative. -/
def splitSign : List Char → Bool × List Char
  | '+' :: rest => (false, rest)
  | '-' :: rest => (true, rest)
  | rest => (false, rest)

/-- The digits at the front of a text and what follows them. -/
def splitDigits (s : List Char) : List Char × List Char :=
  (s.takeWhile Char.isDigit, s.dropWhile Char.isDigit)

/-- The digits behind a point, which may be absent, and what follows them. -/
def splitFraction : List Char → List Char × List Char
  | '.' :: rest => splitDigits rest
  | rest => ([], rest)

/-- An exponent part, which may be absent. -/
def exponentPart? : List Char → Option Int
  | [] => some 0
  | mark :: rest =>
    let (negative, rest) := splitSign rest
    let (digits, rest) := splitDigits rest
    if (mark = 'e' ∨ mark = 'E') ∧ digits ≠ [] ∧ rest = [] then
      some (if negative then -(digitsValue digits : Int) else digitsValue digits)
    else none

/-- A decimal literal taken apart: the number is `digits * 10 ^ exponent` with the sign. -/
structure Literal where
  negative : Bool
  digits : Nat
  exponent : Int
deriving Repr, DecidableEq

/-- Reads a text that is a decimal literal from its first character to its last. -/
def Literal.parse? (s : List Char) : Option Literal :=
  let (negative, rest) := splitSign s
  let (whole, rest) := splitDigits rest
  let (fraction, rest) := splitFraction rest
  if whole = [] ∧ fraction = [] then none
  else (exponentPart? rest).map fun exponent =>
    ⟨negative, digitsValue (whole ++ fraction), exponent - fraction.length⟩

/-- The floating-point number nearest to what the literal denotes. -/
def Literal.toFloat (l : Literal) : Float :=
  ofDigits l.negative l.digits l.exponent

end XmlTemplate.Decimal
