/-!
# Tables of character ranges

A property of characters that comes from a standard is data: a list of the ranges of code points
that have it.
-/

namespace XmlTemplate.Text

/-- Ranges of code points, each with its first and its last member. -/
abbrev RangeTable := List (Nat × Nat)

/-- Whether one of the ranges holds the character. -/
def RangeTable.covers (table : RangeTable) (c : Char) : Bool :=
  table.any fun range => decide (range.1 ≤ c.toNat) && decide (c.toNat ≤ range.2)

theorem RangeTable.covers_iff {table : RangeTable} {c : Char} :
    table.covers c = true ↔ ∃ range ∈ table, range.1 ≤ c.toNat ∧ c.toNat ≤ range.2 := by
  simp [RangeTable.covers]

end XmlTemplate.Text
