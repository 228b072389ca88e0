import XmlTemplate.Yaml.Glyph
import XmlTemplate.Yaml.Token
import XmlTemplate.Yaml.Token.Flow

/-!
# Properties and directives

Anchors, aliases, tags, and the directives in front of a document. Tags may hold bytes in the form
of percent escapes, so the part of a tag behind its handle is kept in bytes. A zero byte ends a tag:
what is written behind it is read, but does not count.
-/

namespace XmlTemplate.Yaml

/-- The characters of anchors, tag handles and names of directives. -/
def isWordChar (c : Char) : Bool :=
  c.isAlphanum || c == '_' || c == '-'

/-- The word at the front and what is left. -/
def splitWord (rest : List Glyph) : List Char × List Glyph :=
  let inWord := fun g : Glyph => isWordChar g.char
  (Glyph.chars (rest.takeWhile inWord), rest.dropWhile inWord)

/-- Leaves out blanks. -/
def skipGaps (rest : List Glyph) : List Glyph :=
  rest.dropWhile fun g => isGap g.char

/-! ## Anchors -/

/-- The name of an anchor or an alias, after its indicator. -/
def anchorName? (rest : List Glyph) : Option (String × List Glyph) :=
  let (name, rest) := splitWord rest
  let ends := Glyph.blankAhead 0 rest || Glyph.ahead 0 (fun c => "?:,]\x7d%@\x60".toList.contains c) rest
  if !name.isEmpty && ends then some (String.ofList name, rest) else none

/-! ## Tags -/

/-- The characters that a tag may hold as they are. -/
def isTagChar (verbatim : Bool) (c : Char) : Bool :=
  isWordChar c || ";/?:@&=+$.!~*'()".toList.contains c
    || (verbatim && (c == ',' || c == '[' || c == ']'))

/-- The number of bytes of a UTF-8 sequence, told from its first byte. -/
def sequenceLength? (byte : Nat) : Option Nat :=
  if byte < 0x80 then some 1
  else if byte / 0x20 = 0x6 then some 2
  else if byte / 0x10 = 0xe then some 3
  else if byte / 0x8 = 0x1e then some 4
  else none

/-- A percent escape at the front: its byte and what is left. -/
def percentByte? : List Glyph → Option (Nat × List Glyph)
  | p :: a :: b :: rest =>
    if p.char = '%' then (hexValue? [a.char, b.char]).map (·, rest) else none
  | _ => none

/-- So many percent escapes of bytes that continue a UTF-8 sequence. -/
def continuationBytes? : Nat → List Glyph → Option (List UInt8 × List Glyph)
  | 0, rest => some ([], rest)
  | n + 1, rest => do
    let (byte, rest) ← percentByte? rest
    if byte / 0x40 = 0x2 then
      let (bytes, rest) ← continuationBytes? n rest
      some (UInt8.ofNat byte :: bytes, rest)
    else none

/-- The percent escapes of one UTF-8 sequence. -/
def percentSequence? (rest : List Glyph) : Option (List UInt8 × List Glyph) := do
  let (byte, rest) ← percentByte? rest
  let (bytes, rest) ← continuationBytes? ((← sequenceLength? byte) - 1) rest
  some (UInt8.ofNat byte :: bytes, rest)

/-- A tag that is being read. -/
structure TagState where
  rest : List Glyph
  bytes : List UInt8 := []

/-- Reads one character or one escaped sequence. -/
def TagState.step (verbatim : Bool) (s : TagState) : Option (TagState ⊕ TagState) :=
  match s.rest with
  | [] => some (.inr s)
  | g :: rest =>
    if g.char = '%' then
      (percentSequence? s.rest).map fun (bytes, rest) => .inl ⟨rest, s.bytes ++ bytes⟩
    else if isTagChar verbatim g.char then
      some (.inl ⟨rest, s.bytes ++ String.utf8EncodeChar g.char⟩)
    else some (.inr s)

/-- The bytes of a tag that starts with the given ones, and what is left. -/
def tagBytes? (verbatim : Bool) (start : List UInt8) (rest : List Glyph) :
    Option (List UInt8 × List Glyph) :=
  (repeatReading (·.rest) (TagState.step verbatim) ⟨rest, start⟩).map fun s => (s.bytes, s.rest)

/-- The bytes in front of the first zero byte. -/
def upToZero (bytes : List UInt8) : List UInt8 :=
  bytes.takeWhile (· != 0)

/-- The handle of a tag: an exclamation mark, and behind it perhaps a word, which may be followed by
another exclamation mark. -/
def tagHandle? : List Glyph → Option (List Char × List Glyph)
  | [] => none
  | g :: rest =>
    if g.char = '!' then
      let (word, rest) := splitWord rest
      match rest with
      | h :: more =>
        if h.char = '!' then some ('!' :: word ++ ['!'], more) else some ('!' :: word, rest)
      | [] => some ('!' :: word, [])
    else none

/-- Whether the handle is a word between exclamation marks, or two of them. -/
def isNamedHandle (handle : List Char) : Bool :=
  1 < handle.length && handle.getLast? == some '!'

/-- The bytes of a text that has only ASCII characters. -/
def asciiBytes (s : List Char) : List UInt8 :=
  s.map fun c => UInt8.ofNat c.toNat

/-- A tag: verbatim between angle brackets, with a named handle, or with the handle `!`. The tag
that amounts to an exclamation mark alone has no handle. -/
def tag? (inFlow : Bool) (rest : List Glyph) : Option (Token × List Glyph) := do
  let (token, rest) ←
    if Glyph.ahead 1 (· == '<') rest then do
      let (bytes, rest) ← tagBytes? true [] (rest.drop 2)
      if !bytes.isEmpty && Glyph.ahead 0 (· == '>') rest then
        some (Token.tag "" (upToZero bytes), rest.drop 1)
      else none
    else do
      let (handle, rest) ← tagHandle? rest
      -- a word without its second exclamation mark is the start of the suffix
      if isNamedHandle handle then
        let (bytes, rest) ← tagBytes? false [] rest
        if bytes.isEmpty then none
        else some (Token.tag (String.ofList handle) (upToZero bytes), rest)
      else
        let (bytes, rest) ← tagBytes? false (asciiBytes (handle.drop 1)) rest
        let suffix := upToZero bytes
        if suffix.isEmpty then some (Token.tag "" (asciiBytes ['!']), rest)
        else some (Token.tag "!" suffix, rest)
  if Glyph.blankAhead 0 rest || (inFlow && Glyph.ahead 0 (· == ',') rest) then some (token, rest)
  else none

/-! ## Directives -/

/-- A number of at most nine digits. -/
def versionNumber? (rest : List Glyph) : Option (Nat × List Glyph) :=
  let digits := Glyph.chars (rest.takeWhile fun g => g.char.isDigit)
  if 1 ≤ digits.length ∧ digits.length ≤ 9 then
    some (digits.foldl (fun n c => 10 * n + (c.toNat - '0'.toNat)) 0, rest.drop digits.length)
  else none

/-- Two numbers with a point between them. -/
def versionDirective? (rest : List Glyph) : Option (Token × List Glyph) := do
  let (major, rest) ← versionNumber? rest
  if Glyph.ahead 0 (· == '.') rest then
    let (minor, rest) ← versionNumber? (rest.drop 1)
    some (.versionDirective major minor, rest)
  else none

/-- A handle and what it stands for, with blanks between them. -/
def tagDirective? (rest : List Glyph) : Option (Token × List Glyph) := do
  let (handle, rest) ← tagHandle? rest
  let closed := handle == ['!'] || handle.getLast? == some '!'
  if closed && Glyph.ahead 0 isGap rest then
    let (bytes, rest) ← tagBytes? true [] (skipGaps rest)
    if !bytes.isEmpty && Glyph.blankAhead 0 rest then
      some (.tagDirective (String.ofList handle) (upToZero bytes), rest)
    else none
  else none

/-- A directive, after its indicator. -/
def directive? (rest : List Glyph) : Option (Token × List Glyph) := do
  let (name, rest) := splitWord rest
  if Glyph.blankAhead 0 rest then
    match String.ofList name with
    | "YAML" => versionDirective? (skipGaps rest)
    | "TAG" => tagDirective? (skipGaps rest)
    | _ => none
  else none

end XmlTemplate.Yaml
