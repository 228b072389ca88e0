import XmlTemplate.Expression.Evaluate
import XmlTemplate.Proofs.Cast
import XmlTemplate.Proofs.Cutting
import XmlTemplate.Proofs.Escaping

/-!
# Where texts are sliced

Four times a text is gone through and sliced at byte positions: to escape it, to split the arguments
of a call, to replace placeholders, and to read an integer with a radix mark. Positions come from
counting bytes, and what is added to them and taken from them are the bytes of the characters that
were found: one for a special character or a comma, three or two for the opening of a placeholder
and one for its closing brace, two for a radix mark. All of these are characters of one byte each,
and none of their bytes occurs within a longer character, so every slice is a text.

Each of the four is given here with its positions, on the bytes or the characters of the text and
their indices, and with slicing that may fail. It never does, and it gives what the definition that
speaks of characters alone gives; and together with what is replaced, the slices make up the text
(`slices_fit_and_tile`).
-/

namespace XmlTemplate

open Text (Stretch Holds Parted Tiles slice? slices? between weave cuts byteSize)

/-! ## Special characters -/

namespace Xml

/-- The stretches of the special bytes among the bytes of a text from an index on, with what is
written for them. -/
def specialsFrom (i : Nat) : List UInt8 → List (Stretch × List Char)
  | [] => []
  | b :: rest =>
    match entities.find? fun entity => entity.1.toNat == b.toNat with
    | some entity => (⟨i, i + 1⟩, entity.2) :: specialsFrom (i + 1) rest
    | none => specialsFrom (i + 1) rest

/-- The stretches of the special bytes of a text, with what is written for them. -/
def specials (s : String) : List (Stretch × List Char) :=
  specialsFrom 0 s.toByteArray.data.toList

/-- The text between the special bytes, and the entities in their places. -/
def escapeSlices? (s : String) : Option (List Char) := do
  let kept ← slices? s (between s.utf8ByteSize 0 ((specials s).map Prod.fst))
  pure (weave (kept.map String.toList) ((specials s).map Prod.snd)).flatten

theorem specialsFrom_append {bytes rest : List UInt8}
    (plain : ∀ b ∈ bytes, entities.find? (fun entity => entity.1.toNat == b.toNat) = none)
    (i : Nat) : specialsFrom i (bytes ++ rest) = specialsFrom (i + bytes.length) rest := by
  induction bytes generalizing i with
  | nil => rfl
  | cons b bytes ih =>
      obtain ⟨first, more⟩ := List.forall_mem_cons.mp plain
      rw [List.cons_append, specialsFrom, first, List.length_cons]
      dsimp only
      rw [ih more]
      congr 1
      omega

/-- A special character is one byte, and this byte is found. -/
theorem specialsFrom_special {c : Char} (special : (c, escapeChar c) ∈ entities) (i : Nat)
    (rest : List Char) : specialsFrom i (utf8 (c :: rest))
      = (⟨i, i + byteSize [c]⟩, escapeChar c) :: specialsFrom (i + byteSize [c]) (utf8 rest) := by
  have each : ∀ entity ∈ entities, String.utf8EncodeChar entity.1 = [entity.1.toUInt8] ∧
      entities.find? (fun other => other.1.toNat == entity.1.toUInt8.toNat) = some entity := by
    decide
  obtain ⟨single, found⟩ := each _ special
  have size : byteSize [c] = 1 := by rw [byteSize, utf8, List.flatMap_singleton, single]; rfl
  have bytes : utf8 (c :: rest) = c.toUInt8 :: utf8 rest := by
    rw [utf8, List.flatMap_cons, single]
    rfl
  rw [bytes, specialsFrom, found, size]

/-- Any other character has no special byte. -/
theorem specialsFrom_plain {c : Char} (plain : ∀ entity ∈ entities, c ≠ entity.1) (i : Nat)
    (rest : List Char) :
    specialsFrom i (utf8 (c :: rest)) = specialsFrom (i + c.utf8Size) (utf8 rest) := by
  rw [utf8, List.flatMap_cons, ← utf8,
    specialsFrom_append fun b member => find?_entity_of_plain plain member,
    String.length_utf8EncodeChar]

theorem exists_parted_specials (i : Nat) (text : List Char) :
    ∃ founds kept more, Parted i text ((specialsFrom i (utf8 text)).map Prod.fst) founds
        (kept :: more) ∧
      (weave (kept :: more) ((specialsFrom i (utf8 text)).map Prod.snd)).flatten = escape text := by
  induction text generalizing i with
  | nil => exact ⟨[], [], [], .last i [], rfl⟩
  | cons c rest ih =>
      rcases escapeChar_cases c with special | ⟨plain, same⟩
      · obtain ⟨founds, kept, more, parted, escaped⟩ := ih (i + byteSize [c])
        rw [specialsFrom_special special]
        refine ⟨[c] :: founds, [], kept :: more, .found [c] parted, ?_⟩
        rw [List.map_cons, weave, List.flatten_cons, List.flatten_cons, escaped]
        rfl
      · obtain ⟨founds, kept, more, parted, escaped⟩ := ih (i + c.utf8Size)
        rw [specialsFrom_plain plain]
        refine ⟨founds, c :: kept, more, parted.char, ?_⟩
        have whole : escape (c :: rest) = c :: escape rest := by
          rw [escape, List.flatMap_cons, same]
          rfl
        rw [whole, ← escaped]
        cases (specialsFrom (i + c.utf8Size) (utf8 rest)).map Prod.snd <;> rfl

/-- The slices between the special bytes make up the text with these bytes, and the escaped text
with the entities. -/
theorem escapeSlices?_eq (s : String) :
    Tiles s (cuts s ((specials s).map Prod.fst)) ∧ escapeSlices? s = some (escape s.toList) := by
  have bytes : s.toByteArray.data.toList = utf8 s.toList := by
    rw [← String.utf8Encode_toList, List.utf8Encode, List.data_toByteArray]
    rfl
  obtain ⟨founds, kept, more, parted, escaped⟩ := exists_parted_specials 0 s.toList
  rw [← bytes] at parted escaped
  have parted : Parted 0 s.toList ((specials s).map Prod.fst) founds (kept :: more) := parted
  refine ⟨parted.tiles, ?_⟩
  rw [escapeSlices?, parted.slices?_between, Option.bind_eq_bind, Option.bind_some,
    Text.map_toList_ofList]
  exact congrArg some escaped

end Xml

/-! ## Commas -/

namespace Call

/-- The stretches of the commas outside of brackets, in what follows the byte index at the depth. -/
def outerCommasFrom (i : Nat) (depth : Int) : List Char → List Stretch
  | [] => []
  | c :: rest =>
    if c = ',' ∧ depth = 0 then ⟨i, i + 1⟩ :: outerCommasFrom (i + c.utf8Size) depth rest
    else outerCommasFrom (i + c.utf8Size) (depth + nesting c) rest

/-- The stretches of the commas outside of brackets. -/
def outerCommas (s : String) : List Stretch :=
  outerCommasFrom 0 0 s.toList

/-- The text between these commas, without white space at the ends; behind the last comma only if
there is any. -/
def argumentSlices? (s : String) : Option (List (List Char)) := do
  let kept ← slices? s (between s.utf8ByteSize 0 (outerCommas s))
  pure ((dropEmptyLast (kept.map String.toList)).map Text.trim)

theorem exists_parted_outerCommas (i : Nat) (depth : Int) (text : List Char) :
    ∃ founds, Parted i text (outerCommasFrom i depth text) founds
      ((pieces depth text).1 :: (pieces depth text).2) := by
  induction text generalizing i depth with
  | nil => exact ⟨[], .last i []⟩
  | cons c rest ih =>
      by_cases cut : c = ',' ∧ depth = 0
      · obtain ⟨founds, parted⟩ := ih (i + c.utf8Size) depth
        rw [outerCommasFrom, if_pos cut, pieces, if_pos cut]
        obtain ⟨rfl, rfl⟩ := cut
        exact ⟨[','] :: founds, .found [','] parted⟩
      · obtain ⟨founds, parted⟩ := ih (i + c.utf8Size) (depth + nesting c)
        rw [outerCommasFrom, if_neg cut, pieces, if_neg cut]
        exact ⟨founds, parted.char⟩

/-- The slices between the outer commas are the pieces of the text, and with the commas they make it
up. -/
theorem argumentSlices?_eq (s : String) :
    Tiles s (cuts s (outerCommas s)) ∧ argumentSlices? s = some (splitArguments s.toList) := by
  obtain ⟨founds, parted⟩ := exists_parted_outerCommas 0 0 s.toList
  have parted : Parted 0 s.toList (outerCommas s) founds _ := parted
  refine ⟨parted.tiles, ?_⟩
  rw [argumentSlices?, parted.slices?_between, Option.bind_eq_bind, Option.bind_some,
    Text.map_toList_ofList]
  rfl

end Call

/-! ## Placeholders -/

namespace Placeholder

/-- The stretches of the placeholders among the pieces, the first of which starts at the byte
index. -/
def stretchesFrom (opening : List Char) (i : Nat) : List Piece → List Stretch
  | [] => []
  | .char c :: rest => stretchesFrom opening (i + c.utf8Size) rest
  | .placeholder body :: rest =>
    let stop := i + byteSize (written opening body)
    ⟨i, stop⟩ :: stretchesFrom opening stop rest

/-- The stretches of the placeholders of a text. -/
def stretches (opening : List Char) (s : String) : List Stretch :=
  stretchesFrom opening 0 (split opening s.toList)

/-- What is inside of a placeholder: behind the bytes of its opening, before its last byte. -/
def inside (opening : List Char) (r : Stretch) : Stretch :=
  ⟨r.start + opening.length, r.stop - 1⟩

/-- The text between the placeholders, and what is inside of them. -/
def pieceSlices? (opening : List Char) (s : String) : Option (List Piece) := do
  let kept ← slices? s (between s.utf8ByteSize 0 (stretches opening s))
  let bodies ← slices? s ((stretches opening s).map (inside opening))
  pure (weave (kept.map fun text => text.toList.map .char)
    (bodies.map fun body => [.placeholder body.toList])).flatten

variable {opening : List Char}

theorem exists_parted_stretches (opening : List Char) (i : Nat) (pieces : List Piece) :
    ∃ (bodies : List (List Char)) (kept : List Char) (more : List (List Char)),
      Parted i (join opening pieces) (stretchesFrom opening i pieces) (bodies.map (written opening))
        (kept :: more) ∧
      (weave ((kept :: more).map fun text => text.map .char)
        (bodies.map fun body => [Piece.placeholder body])).flatten = pieces := by
  induction pieces generalizing i with
  | nil => exact ⟨[], [], [], .last i [], rfl⟩
  | cons piece rest ih =>
      cases piece with
      | char c =>
          obtain ⟨bodies, kept, more, parted, same⟩ := ih (i + c.utf8Size)
          refine ⟨bodies, c :: kept, more, parted.char, ?_⟩
          refine Eq.trans ?_ (congrArg (Piece.char c :: ·) same)
          cases bodies <;> rfl
      | placeholder body =>
          obtain ⟨bodies, kept, more, parted, same⟩ := ih (i + byteSize (written opening body))
          refine ⟨body :: bodies, [], kept :: more, .found _ parted, ?_⟩
          exact congrArg (Piece.placeholder body :: ·) same

/-- The openings consist of characters of one byte. -/
theorem holds_inside {s : String} {r : Stretch} {body : List Char}
    (ascii : byteSize opening = opening.length) (h : Holds s r (written opening body)) :
    Holds s (inside opening r) body := by
  have part := h.inner
  rwa [ascii] at part

theorem forall₂_inside {s : String} {stretches : List Stretch} {bodies : List (List Char)}
    (ascii : byteSize opening = opening.length)
    (h : List.Forall₂ (Holds s) stretches (bodies.map (written opening))) :
    List.Forall₂ (Holds s) (stretches.map (inside opening)) bodies := by
  rw [List.forall₂_map_right_iff] at h
  exact List.forall₂_map_left_iff.mpr (h.imp fun _ _ held => holds_inside ascii held)

/-- The slices of a text are its pieces, and with the placeholders they make up the text. -/
theorem pieceSlices?_eq (ascii : byteSize opening = opening.length) (s : String) :
    Tiles s (cuts s (stretches opening s)) ∧
      (∀ r ∈ stretches opening s, (inside opening r).FitsIn s) ∧
      pieceSlices? opening s = some (split opening s.toList) := by
  obtain ⟨bodies, kept, more, parted, same⟩ :=
    exists_parted_stretches opening 0 (split opening s.toList)
  rw [join_split] at parted
  have parted : Parted 0 s.toList (stretches opening s) (bodies.map (written opening))
    (kept :: more) := parted
  have held := forall₂_inside ascii parted.holds_whole.2
  refine ⟨parted.tiles, List.forall_mem_map.mp (Text.fitsIn_of_holds held), ?_⟩
  rw [pieceSlices?, parted.slices?_between, Text.slices?_eq held]
  refine Eq.trans ?_ (congrArg some same)
  simp only [bind, Option.bind, pure, List.map_map, Function.comp_def, String.toList_ofList]

end Placeholder

/-! ## Radix marks -/

namespace Value

/-- The radix that two characters announce. -/
def radixOf? (mark : String) : Option Nat :=
  if mark = "0x" ∨ mark = "0X" then some 16
  else if mark = "0o" ∨ mark = "0O" then some 8
  else if mark = "0b" ∨ mark = "0B" then some 2
  else none

/-- The radix that the first two bytes of a text announce, if they are a text. -/
def announced? (s : String) : Option Nat :=
  (slice? s ⟨0, 2⟩).bind radixOf?

/-- The two bytes of a radix mark and what follows them; without a mark, the text in one. -/
def radixCuts (s : String) : List Stretch :=
  if (announced? s).isSome then [⟨0, 2⟩, ⟨2, s.utf8ByteSize⟩] else [⟨0, s.utf8ByteSize⟩]

/-- The announced radix, if there is one, and what follows the mark. -/
def radixSlices? (s : String) : Option (Option (Nat × List Char)) :=
  match announced? s with
  | none => some none
  | some radix => (slice? s ⟨2, s.utf8ByteSize⟩).map fun digits => some (radix, digits.toList)

theorem radixOf?_eq_some_iff {mark : String} {radix : Nat} :
    radixOf? mark = some radix ↔
      ∃ c, (radix, c) ∈ Decimal.radixMarks ∧ mark.toList = ['0', c] := by
  constructor
  · intro h
    rw [radixOf?] at h
    split at h
    case isTrue hexadecimal =>
      cases h
      rcases hexadecimal with rfl | rfl
      · exact ⟨'x', by decide, rfl⟩
      · exact ⟨'X', by decide, rfl⟩
    split at h
    case isTrue octal =>
      cases h
      rcases octal with rfl | rfl
      · exact ⟨'o', by decide, rfl⟩
      · exact ⟨'O', by decide, rfl⟩
    split at h
    case isTrue binary =>
      cases h
      rcases binary with rfl | rfl
      · exact ⟨'b', by decide, rfl⟩
      · exact ⟨'B', by decide, rfl⟩
    case isFalse => cases h
  · rintro ⟨c, announced, chars⟩
    have each : ∀ announced ∈ Decimal.radixMarks,
        radixOf? (String.ofList ['0', announced.2]) = some announced.1 := by decide
    rw [← String.ofList_toList (s := mark), chars]
    exact each _ announced

theorem holds_radixMark {s : String} {radix : Nat} {c : Char} {rest : List Char}
    (listed : (radix, c) ∈ Decimal.radixMarks) (whole : s.toList = ['0', c] ++ rest) :
    Holds s ⟨0, 2⟩ ['0', c] ∧ Holds s ⟨2, s.utf8ByteSize⟩ rest := by
  have each : ∀ announced ∈ Decimal.radixMarks, byteSize ['0', announced.2] = 2 := by decide
  have size : byteSize ['0', c] = 2 := each _ listed
  refine ⟨⟨[], rest, whole, by rw [size]; rfl⟩, ['0', c], [], by rw [whole, List.append_nil], ?_⟩
  rw [Text.utf8ByteSize_eq, whole, Text.byteSize_append, size]

/-- A radix mark is the first two characters, both of one byte. -/
theorem announced?_eq_some_iff {s : String} {radix : Nat} :
    announced? s = some radix ↔
      ∃ c rest, (radix, c) ∈ Decimal.radixMarks ∧ s.toList = ['0', c] ++ rest := by
  rw [announced?, Option.bind_eq_some_iff]
  constructor
  · rintro ⟨mark, cut, known⟩
    obtain ⟨c, listed, chars⟩ := radixOf?_eq_some_iff.mp known
    obtain ⟨front, back, whole, place⟩ := Text.slice?_eq_some_iff.mp cut
    have start : 0 = byteSize front := congrArg Stretch.start place
    rw [Text.eq_nil_of_byteSize start.symm, List.nil_append, chars] at whole
    exact ⟨c, back, listed, whole⟩
  · rintro ⟨c, rest, listed, whole⟩
    obtain ⟨mark, -⟩ := holds_radixMark listed whole
    exact ⟨_, mark.slice?_eq,
      radixOf?_eq_some_iff.mpr ⟨c, listed, String.toList_ofList⟩⟩

/-- What follows a radix mark can be cut out, and is what the mark is followed by. -/
theorem radixSlices?_eq (s : String) :
    Tiles s (radixCuts s) ∧ radixSlices? s = some (radixMark? s.toList) := by
  rw [radixCuts, radixSlices?]
  cases found : announced? s with
  | none =>
      have unmarked : radixMark? s.toList = none := by
        refine Option.eq_none_iff_forall_ne_some.mpr ?_
        rintro ⟨radix, digits⟩ marked
        obtain ⟨c, listed, whole⟩ := Decimal.radixMark?_eq_some_iff.mp marked
        have announced := announced?_eq_some_iff.mpr ⟨c, digits, listed, whole.symm⟩
        cases found.symm.trans announced
      have held : Holds s ⟨0, s.utf8ByteSize⟩ s.toList :=
        ⟨[], [], by simp, by rw [Text.utf8ByteSize_eq, Text.byteSize_nil, Nat.zero_add]⟩
      refine ⟨Text.tiles_of_holds (.cons held .nil) ⟨rfl, rfl⟩ (by simp), ?_⟩
      rw [unmarked]
  | some radix =>
      obtain ⟨c, rest, listed, whole⟩ := announced?_eq_some_iff.mp found
      have marked : radixMark? s.toList = some (radix, rest) :=
        Decimal.radixMark?_eq_some_iff.mpr ⟨c, listed, whole.symm⟩
      obtain ⟨mark, digits⟩ := holds_radixMark listed whole
      refine ⟨Text.tiles_of_holds (.cons mark (.cons digits .nil)) ⟨rfl, rfl, rfl⟩ ?_, ?_⟩
      · rw [whole, List.flatten_cons, List.flatten_singleton]
      · rw [marked]
        dsimp only
        rw [digits.slice?_eq, Option.map_some, String.toList_ofList]

end Value

/--
**Every slice of a text is a text.** Whatever the text, the slices that escaping, splitting
arguments, replacing placeholders and reading a radix mark take of it stop no earlier than they
start, lie within, and have no character across their ends; so do those inside of placeholders. With
what is replaced they make up the text, in order and without overlap, and what is done with them
comes to what the text comes to character by character.
-/
theorem slices_fit_and_tile (s : String) :
    (Tiles s (cuts s ((Xml.specials s).map Prod.fst)) ∧
      Xml.escapeSlices? s = some (Xml.escape s.toList)) ∧
    (Tiles s (cuts s (Call.outerCommas s)) ∧
      Call.argumentSlices? s = some (Call.splitArguments s.toList)) ∧
    (Tiles s (cuts s (Placeholder.stretches Placeholder.variableOpening s)) ∧
      (∀ r ∈ Placeholder.stretches Placeholder.variableOpening s,
        (Placeholder.inside Placeholder.variableOpening r).FitsIn s) ∧
      ∀ mode table data, (Placeholder.pieceSlices? Placeholder.variableOpening s).map
        (substitutePieces mode table data []) = some (substitute mode table data s.toList)) ∧
    (Tiles s (cuts s (Placeholder.stretches Placeholder.dataOpening s)) ∧
      (∀ r ∈ Placeholder.stretches Placeholder.dataOpening s,
        (Placeholder.inside Placeholder.dataOpening r).FitsIn s) ∧
      ∀ mode data, (Placeholder.pieceSlices? Placeholder.dataOpening s).map (fillPieces mode data)
        = some (substituteData mode data s.toList)) ∧
    Tiles s (Value.radixCuts s) ∧ Value.radixSlices? s = some (Value.radixMark? s.toList) := by
  have names : byteSize Placeholder.variableOpening = Placeholder.variableOpening.length := by
    decide
  have paths : byteSize Placeholder.dataOpening = Placeholder.dataOpening.length := by decide
  obtain ⟨tiles, fits, pieces⟩ := Placeholder.pieceSlices?_eq names s
  obtain ⟨tiles', fits', pieces'⟩ := Placeholder.pieceSlices?_eq paths s
  refine ⟨Xml.escapeSlices?_eq s, Call.argumentSlices?_eq s, ⟨tiles, fits, ?_⟩,
    ⟨tiles', fits', ?_⟩, Value.radixSlices?_eq s⟩
  · intro mode table data
    rw [pieces]
    rfl
  · intro mode data
    rw [pieces']
    rfl

/-- A text with two letters of two bytes each. -/
def accentedText : String :=
  "é<$${ü}, 0"

/-- The stretches of the special character, of the comma and of the placeholder, each between two
that are kept. The name fits; without its last byte the same stretch would end within a letter. -/
theorem slices_fit_and_tile_accented :
    Tiles accentedText [⟨0, 2⟩, ⟨2, 3⟩, ⟨3, 12⟩] ∧
      Tiles accentedText [⟨0, 9⟩, ⟨9, 10⟩, ⟨10, 12⟩] ∧
      Tiles accentedText [⟨0, 3⟩, ⟨3, 9⟩, ⟨9, 12⟩] ∧
      ⟨3, 9⟩ ∈ Placeholder.stretches Placeholder.variableOpening accentedText ∧
      Stretch.FitsIn ⟨6, 8⟩ accentedText ∧ ¬Stretch.FitsIn ⟨6, 7⟩ accentedText := by
  obtain ⟨⟨special, -⟩, ⟨comma, -⟩, ⟨placeholder, fits, -⟩, -⟩ := slices_fit_and_tile accentedText
  have cutSpecial : cuts accentedText ((Xml.specials accentedText).map Prod.fst)
      = [⟨0, 2⟩, ⟨2, 3⟩, ⟨3, 12⟩] := by decide
  have cutComma : cuts accentedText (Call.outerCommas accentedText)
      = [⟨0, 9⟩, ⟨9, 10⟩, ⟨10, 12⟩] := by decide
  have cutPlaceholder :
      cuts accentedText (Placeholder.stretches Placeholder.variableOpening accentedText)
        = [⟨0, 3⟩, ⟨3, 9⟩, ⟨9, 12⟩] := by decide
  have found : ⟨3, 9⟩ ∈ Placeholder.stretches Placeholder.variableOpening accentedText := by
    decide
  rw [cutSpecial] at special
  rw [cutComma] at comma
  rw [cutPlaceholder] at placeholder
  exact ⟨special, comma, placeholder, found, fits _ found, by decide⟩

end XmlTemplate
