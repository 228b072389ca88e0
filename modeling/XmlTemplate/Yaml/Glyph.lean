/-!
# Located characters

The characters of a YAML text with their places. Where a thing stands decides in YAML how it is
nested, so the lexer reads places together with characters.
-/

namespace XmlTemplate.Yaml

/-- A character with its place. Line breaks end a line and belong to it. -/
structure Glyph where
  char : Char
  /-- The number of bytes in UTF-8 from this character to the end of the text. -/
  left : Nat
  line : Nat
  /-- The number of characters before it on its line. -/
  column : Nat
deriving Repr, DecidableEq

/-- A line break. Carriage returns and the like have become line feeds by then. -/
def isBreak (c : Char) : Bool :=
  c == '\n' || c == '\u2028' || c == '\u2029'

/-- A space or a tab. -/
def isGap (c : Char) : Bool :=
  c == ' ' || c == '\t'

/-- Whether a text may hold the character: tabs, line breaks, and what is printable. -/
def isAllowed (c : Char) : Bool :=
  let n := c.toNat
  n == 0x9 || n == 0xa || n == 0xd || n == 0x85
    || (0x20 ≤ n && n ≤ 0x7e) || (0xa0 ≤ n && n ≤ 0xd7ff)
    || (0xe000 ≤ n && n ≤ 0xfffd) || 0x10000 ≤ n

/-- Line feeds in place of the other ways to end a line. -/
def unifyBreaks : List Char → List Char
  | '\r' :: '\n' :: rest => '\n' :: unifyBreaks rest
  | '\r' :: rest => '\n' :: unifyBreaks rest
  | '\u0085' :: rest => '\n' :: unifyBreaks rest
  | c :: rest => c :: unifyBreaks rest
  | [] => []

/-- The characters with their places, from a given place on. -/
def locate (left line column : Nat) : List Char → List Glyph
  | [] => []
  | c :: rest =>
    ⟨c, left, line, column⟩ ::
      if isBreak c then locate (left - c.utf8Size) (line + 1) 0 rest
      else locate (left - c.utf8Size) line (column + 1) rest

/-- The located characters of a text, unless it holds one that is not allowed. -/
def glyphs? (text : List Char) : Option (List Glyph) :=
  if text.all isAllowed then
    let text := unifyBreaks text
    some (locate (String.ofList text).utf8ByteSize 0 0 text)
  else none

namespace Glyph

/-- The number of bytes that are left. -/
def remaining : List Glyph → Nat
  | [] => 0
  | g :: _ => g.left

/-- The characters without their places. -/
def chars (glyphs : List Glyph) : List Char :=
  glyphs.map Glyph.char

/-- The character `n` places ahead. -/
def peek? (n : Nat) (rest : List Glyph) : Option Char :=
  rest[n]?.map Glyph.char

/-- Whether the character `n` places ahead satisfies the condition. -/
def ahead (n : Nat) (p : Char → Bool) (rest : List Glyph) : Bool :=
  (peek? n rest).any p

/-- Whether there is no character `n` places ahead, or a space, a tab or a line break. -/
def blankAhead (n : Nat) (rest : List Glyph) : Bool :=
  (peek? n rest).all fun c => isGap c || isBreak c

/-- Whether the line starts with the mark of a document's start or end. -/
def documentMark (mark : Char) (rest : List Glyph) : Bool :=
  match rest with
  | a :: b :: c :: _ =>
    a.column == 0 && a.char == mark && b.char == mark && c.char == mark && blankAhead 3 rest
  | _ => false

/-- Whether the line starts with either mark. -/
def atDocumentMark (rest : List Glyph) : Bool :=
  documentMark '-' rest || documentMark '.' rest

end Glyph

/-- Repeats a step until it is done. A step has to leave less of the text; one that does not
is a failure. -/
def repeatReading {σ β : Type} (rest : σ → List Glyph) (step : σ → Option (σ ⊕ β)) (state : σ) :
    Option β :=
  match step state with
  | none => none
  | some (.inr done) => some done
  | some (.inl next) =>
    if Glyph.remaining (rest next) < Glyph.remaining (rest state) then repeatReading rest step next
    else none
termination_by Glyph.remaining (rest state)

end XmlTemplate.Yaml
