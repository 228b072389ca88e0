import XmlTemplate.Yaml.Token.Property
import XmlTemplate.Yaml.Token.Block

/-!
# Lexer

How located characters become tokens. Outside brackets, indentation opens and closes block
collections. A key without a mark of its own is found out only at the colon behind it, so the lexer
remembers where a key may have started and puts its token there afterwards.
-/

namespace XmlTemplate.Yaml

/-- A place at which a key may have started. -/
structure KeyCandidate where
  /-- Nothing but a key makes sense at this place. -/
  required : Bool
  /-- The number of tokens before it. -/
  index : Nat
  left : Nat
  line : Nat
  column : Nat

/-- The lexer between two tokens. -/
structure Lexer where
  rest : List Glyph
  /-- The tokens so far, the latest first. -/
  tokens : List Token := []
  tokenCount : Nat := 0
  /-- The columns of the open block collections, the innermost first. -/
  indents : List Nat := []
  /-- A key may start here. -/
  keyAllowed : Bool := true
  /-- Where a key may have started within the innermost brackets. -/
  candidate : Option KeyCandidate := none
  /-- The same for the brackets around them, and for the block at the end. -/
  outer : List (Option KeyCandidate) := []

namespace Lexer

/-- Whether the lexer is between brackets. -/
def inFlow (s : Lexer) : Bool :=
  !s.outer.isEmpty

/-- The column of the innermost block collection. -/
def indent (s : Lexer) : Int :=
  match s.indents with
  | [] => -1
  | column :: _ => column

/-- Appends a token. -/
def push (t : Token) (s : Lexer) : Lexer :=
  { s with tokens := t :: s.tokens, tokenCount := s.tokenCount + 1 }

/-- Puts a token before those from the given index on. -/
def insertAt (index : Nat) (t : Token) (s : Lexer) : Lexer :=
  -- the latest tokens are in front
  let later := s.tokenCount - index
  { s with
    tokens := s.tokens.take later ++ t :: s.tokens.drop later
    tokenCount := s.tokenCount + 1 }

/-! ## Indentation and keys -/

/-- Opens a block collection at the column if it is deeper than the innermost one. -/
def roll (column index : Nat) (t : Token) (s : Lexer) : Lexer :=
  if !s.inFlow && s.indent < column then
    { s.insertAt index t with indents := column :: s.indents }
  else s

/-- Closes the block collections that are deeper than the column. -/
def unroll (column : Int) (s : Lexer) : Lexer :=
  if s.inFlow then s
  else
    let closed := s.indents.takeWhile fun i : Nat => decide (column < (i : Int))
    { s with
      tokens := closed.map (fun _ => Token.blockEnd) ++ s.tokens
      tokenCount := s.tokenCount + closed.length
      indents := s.indents.drop closed.length }

/-- Gives up the candidate for a key. One that was required is a failure. -/
def dropCandidate? (s : Lexer) : Option Lexer :=
  if s.candidate.any (·.required) then none else some { s with candidate := none }

/-- Remembers that a key may start here, if one is allowed. -/
def saveCandidate? (g : Glyph) (s : Lexer) : Option Lexer :=
  if s.keyAllowed then do
    let s ← s.dropCandidate?
    -- a node at the column of the innermost block collection can only be a key
    let required := !s.inFlow && s.indent == (g.column : Int)
    some { s with candidate := some ⟨required, s.tokenCount, g.left, g.line, g.column⟩ }
  else some s

/-- The candidate for a key that a colon here confirms: it is on the same line and at most 1024
bytes away. A required one that is too far away is a failure. -/
def confirmed? (g : Glyph) (s : Lexer) : Option (Option KeyCandidate) :=
  match s.candidate with
  | none => some none
  | some key =>
    if key.line = g.line ∧ key.left ≤ g.left + 1024 then some (some key)
    else if key.required then none
    else some none

/-! ## Between tokens -/

/-- Skips blanks, comments and line breaks. Outside brackets a key is allowed on each new line, and
tabs are skipped only where none is allowed. A byte order mark may stand at the start of a line. -/
def skip (inFlow keyAllowed inComment : Bool) : List Glyph → Bool × List Glyph
  | [] => (keyAllowed, [])
  | g :: rest =>
    if isBreak g.char then skip inFlow (keyAllowed || !inFlow) false rest
    else if inComment then skip inFlow keyAllowed true rest
    else if g.char == ' ' || (g.char == '\ufeff' && g.column == 0)
        || (g.char == '\t' && (inFlow || !keyAllowed)) then skip inFlow keyAllowed false rest
    else if g.char == '#' then skip inFlow keyAllowed true rest
    else (keyAllowed, g :: rest)

/-! ## Tokens -/

/-- Everything that only works between documents: directives and document marks. -/
def documentLevel? (s : Lexer) : Option Lexer := do
  let s ← (s.unroll (-1)).dropCandidate?
  some { s with keyAllowed := false }

/-- A directive, up to the end of its line. -/
def directiveLine? (s : Lexer) : Option Lexer := do
  let s ← s.documentLevel?
  let (token, rest) ← directive? (s.rest.drop 1)
  some { s.push token with rest := ← endOfLine? rest }

/-- The mark of a document's start or end. -/
def documentMark? (t : Token) (s : Lexer) : Option Lexer := do
  let s ← s.documentLevel?
  some { s.push t with rest := s.rest.drop 3 }

/-- An opening bracket. -/
def openFlow? (t : Token) (g : Glyph) (s : Lexer) : Option Lexer := do
  let s ← s.saveCandidate? g
  some { s.push t with
    rest := s.rest.drop 1, keyAllowed := true
    candidate := none, outer := s.candidate :: s.outer }

/-- A closing bracket. -/
def closeFlow? (t : Token) (s : Lexer) : Option Lexer := do
  let s ← s.dropCandidate?
  let s := { s.push t with rest := s.rest.drop 1, keyAllowed := false }
  match s.outer with
  | [] => some s
  | candidate :: outer => some { s with candidate, outer }

/-- The comma between entries. -/
def flowEntry? (s : Lexer) : Option Lexer := do
  let s ← s.dropCandidate?
  some { s.push .flowEntry with rest := s.rest.drop 1, keyAllowed := true }

/-- The mark of an entry of a block sequence. -/
def blockEntry? (g : Glyph) (s : Lexer) : Option Lexer :=
  if s.inFlow || s.keyAllowed then do
    let s ← (s.roll g.column s.tokenCount .blockSequenceStart).dropCandidate?
    some { s.push .blockEntry with rest := s.rest.drop 1, keyAllowed := true }
  else none

/-- The mark of a key. -/
def keyMark? (g : Glyph) (s : Lexer) : Option Lexer :=
  if s.inFlow || s.keyAllowed then do
    let s ← (s.roll g.column s.tokenCount .blockMappingStart).dropCandidate?
    some { s.push .key with rest := s.rest.drop 1, keyAllowed := !s.inFlow }
  else none

/-- The mark of a value, which confirms a key before it. -/
def valueMark? (g : Glyph) (s : Lexer) : Option Lexer := do
  match ← s.confirmed? g with
  | some key =>
    -- the start of the mapping comes before the mark of its first key
    let s := (s.insertAt key.index .key).roll key.column key.index .blockMappingStart
    some { s.push .value with rest := s.rest.drop 1, keyAllowed := false, candidate := none }
  | none =>
    if s.inFlow || s.keyAllowed then
      let s := s.roll g.column s.tokenCount .blockMappingStart
      some { s.push .value with
        rest := s.rest.drop 1, keyAllowed := !s.inFlow, candidate := none }
    else none

/-- An alias or an anchor. -/
def anchor? (make : String → Token) (g : Glyph) (s : Lexer) : Option Lexer := do
  let s ← s.saveCandidate? g
  let (name, rest) ← anchorName? (s.rest.drop 1)
  some { s.push (make name) with rest, keyAllowed := false }

/-- A tag. -/
def nodeTag? (g : Glyph) (s : Lexer) : Option Lexer := do
  let s ← s.saveCandidate? g
  let (token, rest) ← tag? s.inFlow s.rest
  some { s.push token with rest, keyAllowed := false }

/-- A literal or folded block scalar. -/
def block? (literal : Bool) (s : Lexer) : Option Lexer := do
  let s ← s.dropCandidate?
  let (text, rest) ← blockScalar? literal s.indent (s.rest.drop 1)
  some { s.push (.scalar false (String.ofList text)) with rest, keyAllowed := true }

/-- A quoted scalar. -/
def quoted? (double : Bool) (g : Glyph) (s : Lexer) : Option Lexer := do
  let s ← s.saveCandidate? g
  let (text, rest) ← quotedScalar? double (s.rest.drop 1)
  some { s.push (.scalar false (String.ofList text)) with rest, keyAllowed := false }

/-- A plain scalar. If a line break follows it, a key may start behind. -/
def plain? (g : Glyph) (s : Lexer) : Option Lexer := do
  let s ← s.saveCandidate? g
  let (text, broken, rest) ← plainScalar? s.inFlow (s.indent + 1).toNat s.rest
  some { s.push (.scalar true (String.ofList text)) with rest, keyAllowed := broken }

/-- Whether a plain scalar may start here. -/
def startsPlain (inFlow : Bool) (g : Glyph) (rest : List Glyph) : Bool :=
  if g.char == '-' then !Glyph.ahead 0 isGap rest
  else if g.char == '?' || g.char == ':' then !inFlow && !Glyph.blankAhead 0 rest
  else !(isGap g.char || isBreak g.char || ",[]\x7b\x7d#&*!|>'\"%@\x60".toList.contains g.char)

/-- Reads the token that starts with the character. -/
def token? (g : Glyph) (rest : List Glyph) (s : Lexer) : Option Lexer :=
  let marks := Glyph.blankAhead 0 rest
  if g.column == 0 && g.char == '%' then s.directiveLine?
  else if Glyph.documentMark '-' s.rest then s.documentMark? .documentStart
  else if Glyph.documentMark '.' s.rest then s.documentMark? .documentEnd
  else if g.char == '[' then s.openFlow? .flowSequenceStart g
  else if g.char == '\x7b' then s.openFlow? .flowMappingStart g
  else if g.char == ']' then s.closeFlow? .flowSequenceEnd
  else if g.char == '\x7d' then s.closeFlow? .flowMappingEnd
  else if g.char == ',' then s.flowEntry?
  else if g.char == '-' && marks then s.blockEntry? g
  else if g.char == '?' && (s.inFlow || marks) then s.keyMark? g
  else if g.char == ':' && (s.inFlow || marks) then s.valueMark? g
  else if g.char == '*' then s.anchor? .alias g
  else if g.char == '&' then s.anchor? .anchor g
  else if g.char == '!' then s.nodeTag? g
  else if g.char == '|' && !s.inFlow then s.block? true
  else if g.char == '>' && !s.inFlow then s.block? false
  else if g.char == '\'' then s.quoted? false g
  else if g.char == '"' then s.quoted? true g
  else if startsPlain s.inFlow g rest then s.plain? g
  else none

/-- Reads one token, after what is skipped before it. At the end of the text all block collections
are closed. -/
def step (s : Lexer) : Option (Lexer ⊕ List Token) :=
  let (keyAllowed, rest) := skip s.inFlow s.keyAllowed false s.rest
  let s := { s with keyAllowed, rest }
  match rest with
  | [] => (s.unroll (-1)).dropCandidate?.map fun s => .inr s.tokens.reverse
  | g :: more => ((s.unroll g.column).token? g more).map .inl

end Lexer

/-- The tokens of a text. -/
def tokens? (glyphs : List Glyph) : Option (List Token) :=
  repeatReading (·.rest) Lexer.step { rest := glyphs }

end XmlTemplate.Yaml
