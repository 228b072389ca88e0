/-!
# Element paths

Where an error arose: the keys from the outermost element down, with points between them. The path
of the root is empty.
-/

namespace XmlTemplate.Path

/-- The path of the element with the key, within the element with the path. -/
def child (path key : String) : String :=
  if path = "" then key else path ++ "." ++ key

/-- The path as the place of an error; the root is no place. -/
def place? (path : String) : Option String :=
  if path = "" then none else some path

end XmlTemplate.Path
