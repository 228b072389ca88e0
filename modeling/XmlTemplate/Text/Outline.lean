/-!
# Outlines

A nested thing set down for a person to look at, in one of two layouts: all on one line, or one
entry per line, indented by four spaces and followed by a comma.
-/

namespace XmlTemplate.Text

/-- What an outline shows. -/
inductive Outline where
  /-- A text that is never broken. -/
  | atom (text : String)
  /-- Entries between square brackets. -/
  | list (items : List Outline)
  /-- A name with entries in round brackets. -/
  | call (name : String) (items : List Outline)
  /-- A name with labelled entries in braces; `more` says that some are left out. -/
  | record (name : String) (fields : List (String × Outline)) (more : Bool)

namespace Outline

/-! ## On one line -/

/-- The entries with a comma and a space between them. -/
def separated (items : List String) : String :=
  ", ".intercalate items

mutual

/-- The outline on one line. -/
def compact : Outline → String
  | .atom text => text
  | .list items => "[" ++ separated (compactItems items) ++ "]"
  | .call name items => name ++ "(" ++ separated (compactItems items) ++ ")"
  | .record name fields more =>
    let shown := compactFields fields ++ if more then [".."] else []
    if shown.isEmpty then name else name ++ " \x7b " ++ separated shown ++ " \x7d"

/-- Each entry on one line. -/
def compactItems : List Outline → List String
  | [] => []
  | item :: rest => item.compact :: compactItems rest

/-- Each labelled entry on one line. -/
def compactFields : List (String × Outline) → List String
  | [] => []
  | (label, item) :: rest => (label ++ ": " ++ item.compact) :: compactFields rest

end

/-! ## One entry per line -/

/-- The lines of one entry: indented, with a label before the first and a comma after the last. -/
def entryLines (label : String) : List String → List String
  | [] => []
  | [line] => ["    " ++ label ++ line ++ ","]
  | line :: rest => ("    " ++ label ++ line) :: entryLines "" rest

mutual

/-- The lines of the outline. -/
def lines : Outline → List String
  | .atom text => [text]
  | .list [] => ["[]"]
  | .list (item :: rest) => ["["] ++ (entryLines "" item.lines ++ itemLines rest) ++ ["]"]
  | .call name items => [name ++ "("] ++ itemLines items ++ [")"]
  | .record name fields more =>
    [name ++ " \x7b"] ++ fieldLines fields ++ (if more then ["    .."] else []) ++ ["\x7d"]

/-- The lines of unlabelled entries. -/
def itemLines : List Outline → List String
  | [] => []
  | item :: rest => entryLines "" item.lines ++ itemLines rest

/-- The lines of labelled entries. -/
def fieldLines : List (String × Outline) → List String
  | [] => []
  | (label, item) :: rest => entryLines (label ++ ": ") item.lines ++ fieldLines rest

end

/-- The outline with one entry per line. -/
def indented (outline : Outline) : String :=
  "\n".intercalate outline.lines

end Outline

end XmlTemplate.Text
