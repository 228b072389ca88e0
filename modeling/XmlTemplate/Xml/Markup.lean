/-!
# Markup

The pieces of an XML document, each with its written form. Names are written as they are; texts and
attribute values are escaped.
-/

namespace XmlTemplate.Xml

/-- How a character is written in element text and in attribute values. -/
def escapeChar (c : Char) : List Char :=
  match c with
  | '&' => "&amp;".toList
  | '<' => "&lt;".toList
  | '>' => "&gt;".toList
  | '"' => "&quot;".toList
  | '\'' => "&apos;".toList
  | c => [c]

/-- The text with the five special characters replaced by their entities. -/
def escape (s : List Char) : List Char :=
  s.flatMap escapeChar

/-- Escaping goes character by character, so it can be done piece by piece. -/
theorem escape_append (s t : List Char) : escape (s ++ t) = escape s ++ escape t := by
  simp [escape]

/-- An attribute with the text of its value. -/
structure Attribute where
  name : String
  value : String
deriving Repr, DecidableEq

/-- A blank, the name, and the value in double quotes. -/
def Attribute.written (a : Attribute) : List Char :=
  ' ' :: a.name.toList ++ ['=', '"'] ++ escape a.value.toList ++ ['"']

/-- A piece of a document. -/
inductive Markup where
  | startTag (name : String) (attributes : List Attribute)
  | text (content : String)
  | endTag (name : String)
deriving Repr, DecidableEq

/-- The characters that stand for the piece in the document. -/
def Markup.written : Markup → List Char
  | .startTag name attributes =>
    '<' :: name.toList ++ attributes.flatMap Attribute.written ++ ['>']
  | .text content => escape content.toList
  | .endTag name => '<' :: '/' :: name.toList ++ ['>']

/-- The same characters in the pieces in which they are written. The attributes of a tag are one
piece. -/
def Markup.pieces : Markup → List (List Char)
  | .startTag name attributes =>
    [['<'], name.toList, attributes.flatMap Attribute.written, ['>']]
  | .text content => [escape content.toList]
  | .endTag name => [['<', '/'], name.toList, ['>']]

theorem Markup.flatten_pieces (markup : Markup) : markup.pieces.flatten = markup.written := by
  cases markup <;> simp [pieces, written]

end XmlTemplate.Xml
