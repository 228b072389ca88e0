/-!
# Tokens

What a YAML text consists of once indentation has been turned into brackets: starts and ends of
collections, marks of entries, keys and values, properties of nodes, and scalars.
-/

namespace XmlTemplate.Yaml

/-- A token. -/
inductive Token where
  | versionDirective (major minor : Nat)
  /-- The short handle of a tag and what it stands for, in bytes. -/
  | tagDirective (handle : String) (standsFor : List UInt8)
  | documentStart
  | documentEnd
  | blockSequenceStart
  | blockMappingStart
  | blockEnd
  | flowSequenceStart
  | flowSequenceEnd
  | flowMappingStart
  | flowMappingEnd
  | blockEntry
  | flowEntry
  | key
  | value
  | alias (anchor : String)
  | anchor (name : String)
  /-- A tag is a handle, which may be empty, and the rest of it in bytes. -/
  | tag (handle : String) (suffix : List UInt8)
  /-- A scalar; `plain` says that it stands without quotes or a block header. -/
  | scalar (plain : Bool) (text : String)
deriving Repr, DecidableEq

end XmlTemplate.Yaml
