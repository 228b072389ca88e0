import XmlTemplate.Expression.Placeholder

/-!
# Where the placeholders of a text are

`split` finds the placeholders of a text by going through it once. What it finds is said here
without it: going from left to right, a placeholder is taken where one starts, and its closing brace
is the first one behind the opening; where none starts, a character is taken (`Leftmost`). The text
alone decides how it is cut that way, and `split` cuts it so (`leftmost_iff`).

Cutting can be done by halves: the parts of a text are cut as they are in the whole
(`split_join_of_append`), and a text is cut as its parts are, if no placeholder lies across the
place where they meet (`split_append`).
-/

namespace XmlTemplate.Placeholder

variable {opening body text rest : List Char} {pieces front back : List Piece} {c : Char}

/-- A placeholder with the body starts the text. The body has a character, and the first closing
brace behind the opening is that behind the body. -/
def Starts (opening body text : List Char) : Prop :=
  body ≠ [] ∧ '}' ∉ body ∧ written opening body <+: text

/-- The pieces are the text, cut into its leftmost placeholders that do not overlap and the
characters between them. -/
inductive Leftmost (opening : List Char) : List Char → List Piece → Prop where
  | nil : Leftmost opening [] []
  | placeholder {body rest : List Char} {pieces : List Piece} (nonempty : body ≠ [])
      (closed : '}' ∉ body) (behind : Leftmost opening rest pieces) :
      Leftmost opening (written opening body ++ rest) (.placeholder body :: pieces)
  | char {c : Char} {rest : List Char} {pieces : List Piece}
      (free : ∀ body, ¬Starts opening body (c :: rest)) (behind : Leftmost opening rest pieces) :
      Leftmost opening (c :: rest) (.char c :: pieces)

/-! ## One piece -/

theorem Starts.mono {longer : List Char} (h : Starts opening body text) (more : text <+: longer) :
    Starts opening body longer :=
  ⟨h.1, h.2.1, h.2.2.trans more⟩

theorem atFront?_eq_some_iff : atFront? opening text = some body ↔ Starts opening body text := by
  constructor
  · intro found
    obtain ⟨⟨after, rfl⟩, nonempty, closed⟩ := atFront?_eq_some found
    exact ⟨nonempty, closed, List.prefix_append _ _⟩
  · rintro ⟨nonempty, closed, after, rfl⟩
    obtain ⟨first, inner, rfl⟩ := List.exists_cons_of_ne_nil nonempty
    have inside : ∀ d ∈ first :: inner, (d != '}') = true := by
      rintro d member
      simpa using fun same : d = '}' => closed (same ▸ member)
    have whole : written opening (first :: inner) ++ after
        = opening ++ ((first :: inner) ++ '}' :: after) := by
      simp [written]
    have taken : ((first :: inner) ++ '}' :: after).takeWhile (· != '}') = first :: inner := by
      rw [List.takeWhile_append_of_pos inside]
      simp
    have dropped : ((first :: inner) ++ '}' :: after).dropWhile (· != '}') = '}' :: after := by
      rw [List.dropWhile_append_of_pos inside]
      simp
    rw [whole, atFront?, if_pos (List.isPrefixOf_iff_prefix.mpr (List.prefix_append _ _))]
    simp only [List.drop_left, taken, dropped]

theorem atFront?_eq_none (free : ∀ body, ¬Starts opening body text) :
    atFront? opening text = none := by
  cases found : atFront? opening text with
  | none => rfl
  | some body => exact absurd (atFront?_eq_some_iff.mp found) (free body)

theorem splitFrom_eq_split_drop (opening text : List Char) (skipped : Nat) :
    splitFrom opening skipped text = split opening (text.drop skipped) := by
  induction text generalizing skipped with
  | nil => cases skipped <;> rfl
  | cons c rest ih =>
      cases skipped with
      | zero => rfl
      | succ skipped => exact ih skipped

/-- A placeholder at the front is the first piece. -/
theorem split_written_append (nonempty : body ≠ []) (closed : '}' ∉ body) :
    split opening (written opening body ++ rest) = .placeholder body :: split opening rest := by
  have starts : Starts opening body (written opening body ++ rest) :=
    ⟨nonempty, closed, List.prefix_append _ _⟩
  cases whole : written opening body ++ rest with
  | nil => simp [written] at whole
  | cons c behind =>
      rw [whole] at starts
      rw [split, splitFrom, atFront?_eq_some_iff.mpr starts]
      dsimp only
      rw [splitFrom_eq_split_drop, drop_of_written whole.symm]

/-- Where no placeholder starts, a character is the first piece. -/
theorem split_cons_of_free (free : ∀ body, ¬Starts opening body (c :: rest)) :
    split opening (c :: rest) = .char c :: split opening rest := by
  rw [split, splitFrom, atFront?_eq_none free]
  rfl

/-! ## All pieces -/

theorem Leftmost.split_eq (h : Leftmost opening text pieces) : split opening text = pieces := by
  induction h with
  | nil => rfl
  | placeholder nonempty closed _ ih => rw [split_written_append nonempty closed, ih]
  | char free _ ih => rw [split_cons_of_free free, ih]

theorem leftmost_split (opening text : List Char) : Leftmost opening text (split opening text) := by
  induction length : text.length using Nat.strongRecOn generalizing text with
  | ind n ih =>
      subst length
      cases text with
      | nil => exact .nil
      | cons c rest =>
          by_cases starts : ∃ body, Starts opening body (c :: rest)
          · obtain ⟨body, nonempty, closed, after, whole⟩ := starts
            rw [← whole, split_written_append nonempty closed]
            refine .placeholder nonempty closed (ih _ ?_ after rfl)
            rw [← whole]
            simp [written]
            omega
          · have free := not_exists.mp starts
            rw [split_cons_of_free free]
            exact .char free (ih _ (by simp) rest rfl)

/-- **A text is cut at its leftmost placeholders.** -/
theorem leftmost_iff : Leftmost opening text pieces ↔ split opening text = pieces :=
  ⟨Leftmost.split_eq, fun same => same ▸ leftmost_split opening text⟩

theorem Leftmost.join_eq (h : Leftmost opening text pieces) : join opening pieces = text := by
  rw [← h.split_eq, join_split]

/-! ## Parts of a text -/

theorem join_append (opening : List Char) (front back : List Piece) :
    join opening (front ++ back) = join opening front ++ join opening back :=
  List.flatMap_append

/-- What stands behind some of the pieces has no influence on them. -/
theorem Leftmost.of_append_left (h : Leftmost opening text (front ++ back)) :
    Leftmost opening (join opening front) front := by
  induction front generalizing text with
  | nil => exact .nil
  | cons piece front ih =>
      cases h with
      | placeholder nonempty closed behind => exact .placeholder nonempty closed (ih behind)
      | char free behind =>
          have longer := (join_append opening front back).symm.trans behind.join_eq
          refine .char (fun body starts => free body (starts.mono ?_)) (ih behind)
          exact List.cons_prefix_cons.mpr ⟨rfl, _, longer⟩

theorem Leftmost.of_append_right (h : Leftmost opening text (front ++ back)) :
    Leftmost opening (join opening back) back := by
  induction front generalizing text with
  | nil => exact h.join_eq ▸ h
  | cons piece front ih =>
      cases h with
      | placeholder _ _ behind => exact ih behind
      | char _ behind => exact ih behind

/-- The parts of a text are cut as they are in the whole. -/
theorem split_join_of_append (h : split opening text = front ++ back) :
    split opening (join opening front) = front ∧ split opening (join opening back) = back :=
  have cut := leftmost_iff.mpr h
  ⟨cut.of_append_left.split_eq, cut.of_append_right.split_eq⟩

/-- No placeholder begins in the text and ends behind it. -/
def Apart (opening text rest : List Char) : Prop :=
  ∀ tail body, tail ≠ [] → tail <:+ text → Starts opening body (tail ++ rest) →
    Starts opening body tail

theorem Leftmost.append (h : Leftmost opening text pieces) (apart : Apart opening text rest) :
    Leftmost opening (text ++ rest) (pieces ++ split opening rest) := by
  induction h with
  | nil => exact leftmost_split opening rest
  | placeholder nonempty closed _ ih =>
      rw [List.append_assoc]
      exact .placeholder nonempty closed (ih fun tail body inside suffix =>
        apart tail body inside (suffix.trans (List.suffix_append _ _)))
  | char free _ ih =>
      refine .char (fun body starts => ?_) (ih fun tail body inside suffix =>
        apart tail body inside (suffix.trans (List.suffix_cons _ _)))
      exact free body (apart _ body (List.cons_ne_nil _ _) List.suffix_rfl starts)

theorem split_append (apart : Apart opening text rest) :
    split opening (text ++ rest) = split opening text ++ split opening rest :=
  ((leftmost_split opening text).append apart).split_eq

/-- Where the opening does not occur, no placeholder is. -/
theorem split_of_no_opening (h : ¬opening <:+: text) : split opening text = text.map .char := by
  induction text with
  | nil => rfl
  | cons c rest ih =>
      have free (body : List Char) : ¬Starts opening body (c :: rest) := by
        rintro ⟨-, -, starts⟩
        have opens : opening <+: written opening body := by
          rw [written, List.append_assoc]
          exact List.prefix_append _ _
        exact h (opens.trans starts).isInfix
      rw [split_cons_of_free free,
        ih fun inside => h (inside.trans (List.suffix_cons c rest).isInfix)]
      rfl

/-! ## Replacing -/

/-- The text that a piece becomes, if a placeholder becomes the given text. -/
def Piece.fill (insert : List Char → List Char) : Piece → List Char
  | .char c => [c]
  | .placeholder body => insert body

/-- The text of the pieces with the placeholders replaced. -/
def fill (insert : List Char → List Char) (pieces : List Piece) : List Char :=
  pieces.flatMap (Piece.fill insert)

theorem fill_append (insert : List Char → List Char) (front back : List Piece) :
    fill insert (front ++ back) = fill insert front ++ fill insert back :=
  List.flatMap_append

theorem fill_map_char (insert : List Char → List Char) (text : List Char) :
    fill insert (text.map .char) = text := by
  induction text with
  | nil => rfl
  | cons c rest ih => exact congrArg (c :: ·) ih

end XmlTemplate.Placeholder
