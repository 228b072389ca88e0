import XmlTemplate.Yaml.Glyph

/-!
# Plain and quoted scalars

Both may go over several lines. Between two words on different lines stands what the line breaks
fold to: a space for a single one, and for more of them all but the first.
-/

namespace XmlTemplate.Yaml

/-! ## Gaps -/

/-- Blanks and line breaks between two words. -/
def splitGap (rest : List Glyph) : List Glyph × List Glyph :=
  let inGap := fun g : Glyph => isGap g.char || isBreak g.char
  (rest.takeWhile inGap, rest.dropWhile inGap)

/-- The line breaks of a gap. -/
def gapBreaks (gap : List Glyph) : List Char :=
  (Glyph.chars gap).filter isBreak

/-- What line breaks fold to. -/
def foldBreaks : List Char → List Char
  | ['\n'] => [' ']
  | '\n' :: more => more
  | breaks => breaks

/-- What a gap contributes to a scalar: its blanks, or what its line breaks fold to. -/
def foldGap (gap : List Glyph) : List Char :=
  match gapBreaks gap with
  | [] => Glyph.chars gap
  | breaks => foldBreaks breaks

/-! ## Plain scalars -/

/-- The characters that end a plain scalar between brackets. -/
def isFlowIndicator (c : Char) : Bool :=
  c == ',' || c == '[' || c == ']' || c == '{' || c == '}'

/-- A word of a plain scalar and what follows it. A word ends before a blank, before a colon with a
blank behind it, and between brackets before their indicators; there a colon must not stand directly
before one. -/
def plainWord? (inFlow : Bool) : List Glyph → Option (List Char × List Glyph)
  | [] => some ([], [])
  | g :: rest =>
    if isGap g.char || isBreak g.char then some ([], g :: rest)
    -- `a:,` and the like between brackets is neither a word nor a key
    else if inFlow && g.char == ':'
        && Glyph.ahead 0 (fun c => isFlowIndicator c || c == '?') rest then none
    else if (g.char == ':' && Glyph.blankAhead 0 rest) || (inFlow && isFlowIndicator g.char) then
      some ([], g :: rest)
    else (plainWord? inFlow rest).map fun (word, rest) => (g.char :: word, rest)

/-- A plain scalar that is being read; the text is kept in reverse. -/
structure PlainState where
  rest : List Glyph
  reversed : List Char := []
  /-- What the gap before the next word contributes. -/
  gap : List Char := []
  /-- The gap goes over a line break. -/
  broken : Bool := false

/-- Reads one word and the gap behind it. Outside brackets, a line that starts before `indent` does
not belong to the scalar, and after a line break no tab may stand before that column. -/
def PlainState.step (inFlow : Bool) (indent : Nat) (s : PlainState) :
    Option (PlainState ⊕ PlainState) :=
  if Glyph.atDocumentMark s.rest || Glyph.ahead 0 (· == '#') s.rest then some (.inr s)
  else do
    let (word, rest) ← plainWord? inFlow s.rest
    if word.isEmpty then some (.inr s)
    else
      -- the gap before a word counts only now that the word is there
      let reversed := word.reverse ++ s.gap.reverse ++ s.reversed
      let (gap, after) := splitGap rest
      let afterBreak := gap.dropWhile fun g => !isBreak g.char
      if gap.isEmpty then some (.inr { rest, reversed })
      else if afterBreak.any fun g => g.char == '\t' && g.column < indent then none
      else
        let next : PlainState :=
          { rest := after, reversed, gap := foldGap gap, broken := !afterBreak.isEmpty }
        let belongs := inFlow || after.head?.any fun g => indent ≤ g.column
        some (if belongs then .inl next else .inr next)

/-- A plain scalar: its text, whether a line break follows it, and what is left. -/
def plainScalar? (inFlow : Bool) (indent : Nat) (rest : List Glyph) :
    Option (List Char × Bool × List Glyph) :=
  (repeatReading (·.rest) (PlainState.step inFlow indent) { rest }).map fun s =>
    (s.reversed.reverse, s.broken, s.rest)

/-! ## Quoted scalars -/

/-- The character that a letter stands for after a backslash. -/
def escaped? : Char → Option Char
  | '0' => some '\x00'
  | 'a' => some '\x07'
  | 'b' => some '\x08'
  | 't' => some '\t'
  | '\t' => some '\t'
  | 'n' => some '\n'
  | 'v' => some '\x0b'
  | 'f' => some '\x0c'
  | 'r' => some '\r'
  | 'e' => some '\x1b'
  | ' ' => some ' '
  | '"' => some '"'
  | '/' => some '/'
  | '\\' => some '\\'
  | 'N' => some '\u0085'
  | '_' => some '\u00a0'
  | 'L' => some '\u2028'
  | 'P' => some '\u2029'
  | _ => none

/-- The number of hexadecimal digits that a letter asks for after a backslash. -/
def escapeLength? : Char → Option Nat
  | 'x' => some 2
  | 'u' => some 4
  | 'U' => some 8
  | _ => none

/-- The value of a hexadecimal digit. -/
def hexDigit? (c : Char) : Option Nat :=
  if c.isDigit then some (c.toNat - '0'.toNat)
  else if 'a' ≤ c ∧ c ≤ 'f' then some (c.toNat - 'a'.toNat + 10)
  else if 'A' ≤ c ∧ c ≤ 'F' then some (c.toNat - 'A'.toNat + 10)
  else none

/-- The number that hexadecimal digits denote. -/
def hexValue? (digits : List Char) : Option Nat :=
  digits.foldlM (fun n c => (hexDigit? c).map (16 * n + ·)) 0

/-- The character with a code point, which must not be a surrogate. -/
def charOfCode? (n : Nat) : Option Char :=
  if h : n.isValidChar then some (Char.ofNatAux n h) else none

/-- What stands after a backslash: the character it means, and what is left. -/
def escape? : List Glyph → Option (Char × List Glyph)
  | [] => none
  | g :: rest =>
    match escapeLength? g.char with
    | none => (escaped? g.char).map (·, rest)
    | some count => do
      let digits := Glyph.chars (rest.take count)
      if digits.length = count then
        let c ← charOfCode? (← hexValue? digits)
        some (c, rest.drop count)
      else none

/-- A quoted scalar that is being read; the text is kept in reverse. -/
structure QuotedState where
  rest : List Glyph
  reversed : List Char := []

/-- Reads one character, one gap, or one escape. -/
def QuotedState.step (double : Bool) (s : QuotedState) : Option (QuotedState ⊕ QuotedState) :=
  if Glyph.atDocumentMark s.rest then none
  else
    match s.rest with
    | [] => none
    | g :: rest =>
      if g.char == (if double then '"' else '\'') then
        match double, rest with
        -- two single quotes stand for one
        | false, h :: rest =>
          if h.char == '\'' then some (.inl { rest, reversed := '\'' :: s.reversed })
          else some (.inr { s with rest := h :: rest })
        | _, _ => some (.inr { s with rest })
      else if isGap g.char || isBreak g.char then
        let (gap, after) := splitGap s.rest
        some (.inl ⟨after, (foldGap gap).reverse ++ s.reversed⟩)
      else if double && g.char == '\\' then
        if Glyph.ahead 0 isBreak rest then
          -- the line goes on with the first word of a later one
          let (gap, after) := splitGap (rest.drop 1)
          some (.inl ⟨after, (gapBreaks gap).reverse ++ s.reversed⟩)
        else (escape? rest).map fun (c, after) => .inl ⟨after, c :: s.reversed⟩
      else some (.inl ⟨rest, g.char :: s.reversed⟩)

/-- A quoted scalar, after its opening quote: its text and what is left after the closing one. -/
def quotedScalar? (double : Bool) (rest : List Glyph) : Option (List Char × List Glyph) :=
  (repeatReading (·.rest) (QuotedState.step double) { rest }).map fun s =>
    (s.reversed.reverse, s.rest)

end XmlTemplate.Yaml
