/-!
# Placeholders

A placeholder is an opening, a body of at least one character other than the closing brace, and the
closing brace. A text is split into its placeholders, each the leftmost one that does not overlap
those before it, and the characters between them. Nothing is lost thereby: `join_split` puts the
pieces together again.
-/

namespace XmlTemplate.Placeholder

/-- What stands before the name of a variable. -/
def variableOpening : List Char := ['$', '$', '{']

/-- What stands before a path into the data. -/
def dataOpening : List Char := ['$', '{']

/-- A piece of a text. -/
inductive Piece where
  | char (c : Char)
  | placeholder (body : List Char)
deriving Repr, DecidableEq

/-- A placeholder as it is written. -/
def written (opening body : List Char) : List Char :=
  opening ++ body ++ ['}']

/-- The body of the placeholder that the text starts with. -/
def atFront? (opening text : List Char) : Option (List Char) :=
  if opening.isPrefixOf text then
    let rest := text.drop opening.length
    match rest.takeWhile (· != '}'), rest.dropWhile (· != '}') with
    | first :: body, _ :: _ => some (first :: body)
    | _, _ => none
  else none

/-- The pieces of a text behind so many characters, which belong to a placeholder before it. -/
def splitFrom (opening : List Char) : Nat → List Char → List Piece
  | _, [] => []
  | skipped + 1, _ :: rest => splitFrom opening skipped rest
  | 0, c :: rest =>
    match atFront? opening (c :: rest) with
    | some body => .placeholder body :: splitFrom opening (opening.length + body.length) rest
    | none => .char c :: splitFrom opening 0 rest

/-- The pieces of a text. -/
def split (opening text : List Char) : List Piece :=
  splitFrom opening 0 text

/-- The text of a piece. -/
def Piece.text (opening : List Char) : Piece → List Char
  | .char c => [c]
  | .placeholder body => written opening body

/-- The text of several pieces. -/
def join (opening : List Char) (pieces : List Piece) : List Char :=
  pieces.flatMap (Piece.text opening)

/-! ## Splitting loses nothing -/

/-- A placeholder at the front is what the text starts with, and its body neither is empty nor holds
the closing brace. -/
theorem atFront?_eq_some {opening text body : List Char} (h : atFront? opening text = some body) :
    (∃ after, text = written opening body ++ after) ∧ body ≠ [] ∧ '}' ∉ body := by
  unfold atFront? at h
  split at h
  case isFalse => contradiction
  rename_i opens
  obtain ⟨rest, rfl⟩ := List.isPrefixOf_iff_prefix.mp opens
  simp only [List.drop_left] at h
  split at h
  · rename_i first inner closing after taken dropped
    cases h
    -- the first character that is dropped is the closing brace
    have closes : closing = '}' := by
      have := List.head?_dropWhile_not (· != '}') rest
      rw [dropped] at this
      simpa using this
    have whole := List.takeWhile_append_dropWhile (p := (· != '}')) (l := rest)
    rw [taken, dropped, closes] at whole
    refine ⟨⟨after, ?_⟩, by simp, ?_⟩
    · rw [← whole]
      simp [written]
    · intro member
      rw [← taken] at member
      simpa using List.all_eq_true.mp List.all_takeWhile _ member
  · contradiction

/-- Behind its first character, a placeholder is as long as its opening and its body. -/
theorem drop_of_written {opening body rest after : List Char} {c : Char}
    (h : c :: rest = written opening body ++ after) :
    rest.drop (opening.length + body.length) = after := by
  have : (c :: rest).drop (opening.length + body.length + 1) = after := by
    rw [h]
    exact List.drop_left' (by simp [written]; omega)
  simpa using this

theorem join_splitFrom (opening text : List Char) (skipped : Nat) :
    join opening (splitFrom opening skipped text) = text.drop skipped := by
  induction text generalizing skipped with
  | nil => cases skipped <;> rfl
  | cons c rest ih =>
    cases skipped with
    | succ skipped => simpa [splitFrom] using ih skipped
    | zero =>
      simp only [splitFrom]
      split
      · rename_i body front
        obtain ⟨⟨after, whole⟩, _⟩ := atFront?_eq_some front
        have ih' := ih (opening.length + body.length)
        rw [drop_of_written whole] at ih'
        simp only [join, List.flatMap_cons, Piece.text] at ih' ⊢
        rw [ih', List.drop_zero, whole]
      · have ih' := ih 0
        simp only [join, List.flatMap_cons, Piece.text, List.drop_zero] at ih' ⊢
        rw [ih']
        rfl

/-- The pieces of a text, put together again, are the text. -/
theorem join_split (opening text : List Char) : join opening (split opening text) = text := by
  simpa [split] using join_splitFrom opening text 0

end XmlTemplate.Placeholder
