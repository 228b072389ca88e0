import XmlTemplate.Decimal.Shortest

/-!
# Layout of decimals

How the digits of a number are set down: with a decimal point where it belongs, or with one digit
before the point and an exponent of ten behind.
-/

namespace XmlTemplate.Decimal

/-- The decisions of a number format. -/
structure Layout where
  /-- The least power of ten whose digits are written with the point in its place. -/
  positionalFrom : Int
  /-- The first power of ten that is written with an exponent again. -/
  positionalBelow : Int
  /-- What stands between the digits and an exponent that is not negative. -/
  exponentMark : String
  nan : String
  infinity : String

/-- The digits of a positive number with the point in its place. -/
def Digits.positional (d : Digits) : List Char :=
  let digits := Nat.toDigits 10 d.digits
  match d.exponent with
  | .ofNat zeros => digits ++ List.replicate zeros '0'
  | .negSucc places =>
    -- the number of digits before the point
    let whole := digits.length - (places + 1)
    if whole = 0 then
      ['0', '.'] ++ List.replicate (places + 1 - digits.length) '0' ++ digits
    else digits.take whole ++ ['.'] ++ digits.drop whole

/-- One digit before the point, none or more behind it, and the exponent of ten. -/
def Digits.scientific (mark : String) (d : Digits) : List Char :=
  let digits := Nat.toDigits 10 d.digits
  let exponent := d.exponent + ((digits.length : Int) - 1)
  let mantissa := match digits with
    | first :: second :: rest => first :: '.' :: second :: rest
    | few => few
  match exponent with
  | .ofNat e => mantissa ++ mark.toList ++ Nat.toDigits 10 e
  | .negSucc e => mantissa ++ ['e', '-'] ++ Nat.toDigits 10 (e + 1)

/-- A positive number in its layout. -/
def Layout.digits (layout : Layout) (d : Digits) : List Char :=
  let order := d.exponent + ((digitCount d.digits : Int) - 1)
  if layout.positionalFrom ≤ order ∧ order < layout.positionalBelow then d.positional
  else d.scientific layout.exponentMark

/-- The text of a floating-point number. Zero has no sign. -/
def Layout.float (layout : Layout) (x : Float) : String :=
  if x.isNaN then layout.nan
  else
    let sign := if x < 0 then "-" else ""
    if x.isInf then sign ++ layout.infinity
    else if x == 0 then "0"
    else sign ++ String.ofList (layout.digits (shortest (.ofFloat x)))

end XmlTemplate.Decimal
