import XmlTemplate.Value
import XmlTemplate.Decimal.Literal
import XmlTemplate.Text.Blank

/-!
# Values as numbers

Every value can be read as a number; one that denotes no number reads as NaN.
-/

namespace XmlTemplate

/-- A number that is not one. -/
def Decimal.nan : Float := .ofBits 0x7ff8000000000000

/-- The value of a digit below the radix, letters of either case standing for ten and above. -/
def Decimal.digit? (radix : Nat) (c : Char) : Option Nat :=
  let value? :=
    if c.isDigit then some (c.toNat - '0'.toNat)
    else if 'a' ≤ c ∧ c ≤ 'z' then some (c.toNat - 'a'.toNat + 10)
    else if 'A' ≤ c ∧ c ≤ 'Z' then some (c.toNat - 'A'.toNat + 10)
    else none
  value?.filter (· < radix)

/-- The number that one or more digits of the radix denote. -/
def Decimal.ofRadix? (radix : Nat) (digits : List Char) : Option Nat :=
  if digits = [] then none
  else digits.foldlM (fun n c => (digit? radix c).map (radix * n + ·)) 0

/-- The number that a text denotes in the grammar of floating-point numbers: a decimal literal, or a
word in letters of either case behind an optional sign. -/
def Decimal.parseFloat? (s : List Char) : Option Float :=
  match Literal.parse? s with
  | some literal => some literal.toFloat
  | none =>
    let (negative, word) := splitSign s
    let word := word.map Char.toLower
    if word = "inf".toList ∨ word = "infinity".toList then some (infinity negative)
    else if word = "nan".toList then some nan
    else none

/-- The characters of decimal literals. They are none of the words. -/
def Decimal.isLiteralChar (c : Char) : Bool :=
  c.isDigit || c == '.' || c == 'e' || c == 'E' || c == '+' || c == '-'

namespace Value

/-- The radix that the front of a text announces, and what follows. -/
def radixMark? : List Char → Option (Nat × List Char)
  | '0' :: mark :: rest =>
    if mark = 'x' ∨ mark = 'X' then some (16, rest)
    else if mark = 'o' ∨ mark = 'O' then some (8, rest)
    else if mark = 'b' ∨ mark = 'B' then some (2, rest)
    else none
  | _ => none

/-- The number that a text denotes. White space at its ends is ignored, and the empty text denotes
zero. An integer with a radix mark has to fit into 128 bits. -/
def numberOfText (s : List Char) : Float :=
  let s := Text.trim s
  if s = [] then Decimal.ofInt 0
  else match radixMark? s with
    | some (radix, digits) =>
      match Decimal.ofRadix? radix digits with
      | some n => if n < Nat.pow 2 128 then Decimal.ofInt n else Decimal.nan
      | none => Decimal.nan
    | none =>
      if s = "Infinity".toList ∨ s = "+Infinity".toList then Decimal.infinity false
      else if s = "-Infinity".toList then Decimal.infinity true
      else if s.all Decimal.isLiteralChar then (Decimal.parseFloat? s).getD Decimal.nan
      else Decimal.nan

/-- The value as an operand of arithmetic. -/
def toNumber : Value → Float
  | .null => Decimal.ofInt 0
  | .bool b => Decimal.ofInt (if b then 1 else 0)
  | .int n => Decimal.ofInt n.toInt
  | .float x => x
  | .string s => numberOfText s.toList
  | .list _ => Decimal.nan
  | .map _ => Decimal.nan

end Value

end XmlTemplate
