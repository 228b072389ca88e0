import XmlTemplate.Text.Identifier

/-!
# Names

Which texts strict mode takes for names of elements and attributes: identifiers in the sense of
Unicode, with the characters that XML allows in addition.
-/

namespace XmlTemplate.Xml

/-- Whether a name may start with the character. -/
def isNameStart (c : Char) : Bool :=
  c == '_' || c == ':' || Text.isIdentifierStart c

/-- Whether a name may hold the character after its first one. -/
def isNameContinue (c : Char) : Bool :=
  c == '-' || c == '.' || c == ':' || Text.isIdentifierContinue c

/-- Whether the text is a name. -/
def isName : List Char → Bool
  | [] => false
  | first :: rest => isNameStart first && rest.all isNameContinue

end XmlTemplate.Xml
