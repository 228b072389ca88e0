import XmlTemplate.Text.RangeTable

/-!
# Blank characters

The 25 characters that Unicode calls white space, and texts without them at their ends.
-/

namespace XmlTemplate.Text

/-- The characters with the property `White_Space`. -/
def whiteSpace : RangeTable := [
  (0x9, 0xd), (0x20, 0x20), (0x85, 0x85), (0xa0, 0xa0), (0x1680, 0x1680), (0x2000, 0x200a),
  (0x2028, 0x2029), (0x202f, 0x202f), (0x205f, 0x205f), (0x3000, 0x3000)]

/-- Whether the character is white space. -/
def isBlank (c : Char) : Bool :=
  whiteSpace.covers c

/-- The text without the white space at its ends. -/
def trim (s : List Char) : List Char :=
  ((s.dropWhile isBlank).reverse.dropWhile isBlank).reverse

/-- Trimming never makes a text longer. -/
theorem length_trim_le (s : List Char) : (trim s).length ≤ s.length := by
  have outer := (List.dropWhile_suffix isBlank (l := (s.dropWhile isBlank).reverse)).length_le
  have inner := (List.dropWhile_suffix isBlank (l := s)).length_le
  simp only [trim, List.length_reverse] at *
  omega

end XmlTemplate.Text
