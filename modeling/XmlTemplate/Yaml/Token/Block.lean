import XmlTemplate.Yaml.Glyph

/-!
# Block scalars

A header, and below it the lines that are indented deeper than what surrounds them. A literal scalar
keeps its line breaks; a folded one joins lines that do not start with a blank.
-/

namespace XmlTemplate.Yaml

/-- What happens to the line breaks at the end of a block scalar. -/
inductive Chomping where
  /-- All of them are dropped. -/
  | strip
  /-- The first of them is kept. -/
  | clip
  /-- All of them are kept. -/
  | keep
deriving Repr, DecidableEq

/-- The chomping that a sign in the header asks for. -/
def chomping? (c : Char) : Option Chomping :=
  if c = '+' then some .keep else if c = '-' then some .strip else none

/-- The indentation that a digit in the header asks for, if it is one; zero is none. -/
def increment? (c : Char) : Option Nat :=
  if c.isDigit then some (c.toNat - '0'.toNat) else none

/-- The signs of a header: chomping and indentation in either order, each of them optional. -/
def blockHeader? (rest : List Glyph) : Option (Chomping × Option Nat × List Glyph) :=
  let (chomping, increment, rest) := match rest with
    | a :: b :: more =>
      match chomping? a.char, increment? b.char with
      | some chomping, some n => (chomping, some n, more)
      | some chomping, none => (chomping, none, b :: more)
      | none, _ =>
        match increment? a.char, chomping? b.char with
        | some n, some chomping => (chomping, some n, more)
        | some n, none => (.clip, some n, b :: more)
        | none, _ => (.clip, none, rest)
    | [a] =>
      match chomping? a.char, increment? a.char with
      | some chomping, _ => (chomping, none, [])
      | none, some n => (.clip, some n, [])
      | none, none => (.clip, none, rest)
    | [] => (.clip, none, rest)
  if increment = some 0 then none else some (chomping, increment, rest)

/-- What is left after blanks, a comment, and one line break, which is all that may stand between a
header and the next line. -/
def endOfLine? (rest : List Glyph) : Option (List Glyph) :=
  let rest := rest.dropWhile fun g => isGap g.char
  let rest :=
    if Glyph.ahead 0 (· == '#') rest then rest.dropWhile fun g => !isBreak g.char else rest
  match rest with
  | [] => some []
  | g :: rest => if isBreak g.char then some rest else none

/-- Skips the indentation of a line and lines without text: the line breaks skipped, the greatest
column reached, and what is left. Where the indentation is not known yet, it is given as zero. A tab
must not stand in place of indentation. -/
def skipIndentation? (indent : Nat) : Nat → List Glyph → Option (List Char × Nat × List Glyph)
  | deepest, [] => some ([], deepest, [])
  | deepest, g :: rest =>
    -- the line has not reached the indentation yet
    let short := indent == 0 || g.column < indent
    if short && g.char == ' ' then skipIndentation? indent deepest rest
    else if short && g.char == '\t' then none
    else
      let deepest := max deepest g.column
      if isBreak g.char then
        (skipIndentation? indent deepest rest).map fun (breaks, rest) => (g.char :: breaks, rest)
      else some ([], deepest, g :: rest)

/-- A line of a block scalar. -/
structure BlockLine where
  text : List Char
  /-- The line break that ends the line; none at the end of the text. -/
  ending : List Char
  /-- The line breaks of the lines without text behind it. -/
  blankLines : List Char

/-- The lines that are being read. -/
structure BlockState where
  rest : List Glyph
  reversed : List BlockLine := []

/-- Reads one line and the lines without text behind it. -/
def BlockState.step (indent : Nat) (s : BlockState) : Option (BlockState ⊕ BlockState) :=
  match s.rest with
  | [] => some (.inr s)
  | g :: _ =>
    if g.column = indent then
      let text := Glyph.chars (s.rest.takeWhile fun g => !isBreak g.char)
      let rest := s.rest.dropWhile fun g => !isBreak g.char
      let ending := Glyph.chars (rest.take 1)
      (skipIndentation? indent 0 (rest.drop 1)).map fun (blankLines, _, rest) =>
        .inl ⟨rest, ⟨text, ending, blankLines⟩ :: s.reversed⟩
    else some (.inr s)

/-- Whether a line starts with a blank. -/
def BlockLine.startsBlank (line : BlockLine) : Bool :=
  line.text.head?.any isGap

/-- What stands between two lines. Folding turns a line feed between two lines that do not start
with a blank into a space, or into nothing if lines without text follow. -/
def joinLines (literal : Bool) (before after : BlockLine) : List Char :=
  if !literal && before.ending == ['\n'] && !before.startsBlank && !after.startsBlank then
    if before.blankLines.isEmpty then [' '] else before.blankLines
  else before.ending ++ before.blankLines

/-- The text of the lines, with the end as chomping asks. -/
def blockText (literal : Bool) (chomping : Chomping) : List BlockLine → List Char
  | [] => []
  | [last] =>
    last.text ++ match chomping with
      | .strip => []
      | .clip => last.ending
      | .keep => last.ending ++ last.blankLines
  | line :: next :: rest =>
    line.text ++ joinLines literal line next ++ blockText literal chomping (next :: rest)

/-- A block scalar, after its indicator: its text and what is left. The indentation of what
surrounds it is `outer`, which is negative at the top. -/
def blockScalar? (literal : Bool) (outer : Int) (rest : List Glyph) :
    Option (List Char × List Glyph) := do
  let (chomping, increment, rest) ← blockHeader? rest
  let rest ← endOfLine? rest
  let given := match increment with
    | none => 0
    | some n => outer.toNat + n
  let (blankLines, deepest, rest) ← skipIndentation? given 0 rest
  -- without a digit in the header, the first line with text sets the indentation
  let indent := if given = 0 then max deepest (max (outer + 1).toNat 1) else given
  let s ← repeatReading (·.rest) (BlockState.step indent) { rest }
  let lines := s.reversed.reverse
  -- where there is no line with text, the line breaks are at the end and fall to chomping
  let leading := if lines.isEmpty && chomping != .keep then [] else blankLines
  some (leading ++ blockText literal chomping lines, s.rest)

end XmlTemplate.Yaml
