import XmlTemplate.Expression.Call

/-!
# Brackets and arguments

Where an argument text is split is decided by a count of brackets. The texts that can stand as
arguments are those that the count comes out of unchanged, and in which every comma is enclosed in
brackets (`IsEnclosed`). Such texts, with a comma and a blank between them, are split into
themselves: `Call.splitArguments_join` is what makes a printed call readable.
-/

namespace XmlTemplate

namespace Text

/-- How many brackets the text opens more than it closes. -/
def depth (s : List Char) : Int :=
  s.count '(' - s.count ')'

/-- Only brackets that are open get closed, and in the end none is open. -/
structure IsBalanced (s : List Char) : Prop where
  nonneg : ∀ front, front <+: s → 0 ≤ depth front
  closed : depth s = 0

/-- The brackets are balanced, and there is an open one before every comma. -/
structure IsEnclosed (s : List Char) : Prop extends IsBalanced s where
  comma : ∀ front, front ++ [','] <+: s → 0 < depth front

instance : DecidablePred IsBalanced := fun s =>
  decidable_of_iff ((∀ n ≤ s.length, 0 ≤ depth (s.take n)) ∧ depth s = 0) <| by
    constructor
    · rintro ⟨nonneg, closed⟩
      refine ⟨fun front h => ?_, closed⟩
      rw [List.prefix_iff_eq_take.mp h]
      exact nonneg _ h.length_le
    · rintro ⟨nonneg, closed⟩
      exact ⟨fun n _ => nonneg _ (List.take_prefix n s), closed⟩

instance : DecidablePred IsEnclosed := fun s =>
  decidable_of_iff (IsBalanced s ∧ ∀ n < s.length, s[n]? = some ',' → 0 < depth (s.take n)) <| by
    constructor
    · rintro ⟨balanced, comma⟩
      refine ⟨balanced, ?_⟩
      rintro front ⟨back, rfl⟩
      have := comma front.length (by simp) (by simp)
      simpa using this
    · rintro ⟨balanced, comma⟩
      refine ⟨balanced, fun n _ found => comma _ ?_⟩
      have : s.take n ++ [','] = s.take (n + 1) := by rw [List.take_add_one, found]; rfl
      rw [this]
      exact List.take_prefix _ _

theorem depth_append (s t : List Char) : depth (s ++ t) = depth s + depth t := by
  simp only [depth, List.count_append]
  omega

theorem depth_cons (c : Char) (s : List Char) : depth (c :: s) = Call.nesting c + depth s := by
  simp only [depth, List.count_cons, Call.nesting]
  by_cases opens : c = '('
  · subst opens
    simp
    omega
  · by_cases closes : c = ')'
    · subst closes
      simp
      omega
    · simp [opens, closes]

theorem IsBalanced.nil : IsBalanced [] where
  nonneg front h := by
    rw [List.prefix_nil.mp h]
    decide
  closed := by decide

theorem IsBalanced.append {s t : List Char} (hs : IsBalanced s) (ht : IsBalanced t) :
    IsBalanced (s ++ t) where
  nonneg front h := by
    obtain ⟨back, whole⟩ := h
    rcases List.append_eq_append_iff.mp whole with ⟨rest, rfl, _⟩ | ⟨rest, rfl, split⟩
    · exact hs.nonneg front ⟨rest, rfl⟩
    · have := ht.nonneg rest ⟨back, split.symm⟩
      rw [depth_append, hs.closed]
      omega
  closed := by rw [depth_append, hs.closed, ht.closed, Int.add_zero]

/-- A character that is no bracket changes nothing. -/
theorem IsBalanced.cons {c : Char} {s : List Char} (hc : Call.nesting c = 0) (h : IsBalanced s) :
    IsBalanced (c :: s) where
  nonneg front hfront := by
    rcases List.prefix_cons_iff.mp hfront with rfl | ⟨rest, rfl, hrest⟩
    · decide
    · have := h.nonneg rest hrest
      rw [depth_cons, hc]
      omega
  closed := by rw [depth_cons, hc, h.closed, Int.add_zero]

theorem IsEnclosed.cons {c : Char} {s : List Char} (hc : Call.nesting c = 0) (ne : c ≠ ',')
    (h : IsEnclosed s) : IsEnclosed (c :: s) where
  toIsBalanced := h.toIsBalanced.cons hc
  comma front hfront := by
    rcases List.prefix_cons_iff.mp hfront with nil | ⟨rest, split, hrest⟩
    · exact absurd nil (by simp)
    · cases front with
      | nil =>
          rw [List.nil_append, List.cons.injEq] at split
          exact absurd split.1.symm ne
      | cons first front =>
          rw [List.cons_append, List.cons.injEq] at split
          obtain ⟨rfl, rfl⟩ := split
          have := h.comma front hrest
          rw [depth_cons, hc]
          omega

/-- What stands in front of an enclosed text may be any text without brackets and commas. -/
theorem IsEnclosed.append_left {plain s : List Char}
    (hplain : ∀ c ∈ plain, Call.nesting c = 0 ∧ c ≠ ',') (h : IsEnclosed s) :
    IsEnclosed (plain ++ s) := by
  induction plain with
  | nil => exact h
  | cons c rest ih =>
      obtain ⟨hc, ne⟩ := hplain c List.mem_cons_self
      exact (ih fun d member => hplain d (List.mem_cons_of_mem _ member)).cons hc ne

/-- Brackets enclose whatever is balanced. -/
theorem IsBalanced.enclosed {s : List Char} (h : IsBalanced s) :
    IsEnclosed ('(' :: s ++ [')']) where
  nonneg front hfront := by
    rcases List.prefix_concat_iff.mp hfront with rfl | hfront
    · rw [List.cons_append, depth_cons, depth_append, h.closed]
      decide
    · rcases List.prefix_cons_iff.mp hfront with rfl | ⟨rest, rfl, hrest⟩
      · decide
      · have := h.nonneg rest hrest
        rw [depth_cons, show Call.nesting '(' = 1 from rfl]
        omega
  closed := by
    rw [List.cons_append, depth_cons, depth_append, h.closed]
    decide
  comma front hfront := by
    rcases List.prefix_concat_iff.mp hfront with whole | hfront
    · have last := congrArg List.getLast? whole
      rw [List.getLast?_concat, List.getLast?_concat] at last
      exact absurd last (by decide)
    · rcases List.prefix_cons_iff.mp hfront with nil | ⟨rest, split, hrest⟩
      · exact absurd nil (by simp)
      · cases front with
        | nil => simp at split
        | cons first front =>
            rw [List.cons_append, List.cons.injEq] at split
            obtain ⟨rfl, rfl⟩ := split
            have := h.nonneg front ((List.prefix_append _ _).trans hrest)
            rw [depth_cons, show Call.nesting '(' = 1 from rfl]
            omega

/-! ## White space at the ends -/

/-- The text has no white space at its ends. -/
def IsTrimmed (s : List Char) : Prop :=
  (∀ c ∈ s.head?, isBlank c = false) ∧ ∀ c ∈ s.getLast?, isBlank c = false

instance : DecidablePred IsTrimmed := fun s =>
  decidable_of_iff (s.head?.all (!isBlank ·) = true ∧ s.getLast?.all (!isBlank ·) = true) <| by
    simp only [IsTrimmed, Option.all_eq_true, Bool.not_eq_true', Option.mem_def]

theorem dropWhile_isBlank {s : List Char} (h : ∀ c ∈ s.head?, isBlank c = false) :
    s.dropWhile isBlank = s := by
  cases s with
  | nil => rfl
  | cons c rest => rw [List.dropWhile_cons_of_neg (by simp [h c rfl])]

theorem IsTrimmed.trim {s : List Char} (h : IsTrimmed s) : Text.trim s = s := by
  rw [Text.trim, dropWhile_isBlank h.1, dropWhile_isBlank, List.reverse_reverse]
  intro c last
  exact h.2 c (by rwa [List.head?_reverse] at last)

theorem trim_cons_blank {c : Char} (h : isBlank c = true) (s : List Char) :
    trim (c :: s) = trim s := by
  rw [trim, List.dropWhile_cons_of_pos h, trim]

end Text

/-! ## Splitting -/

namespace Call

open Text (depth IsEnclosed IsTrimmed)

/-- A text without a comma at the depth zero belongs to one piece as a whole. -/
theorem pieces_append {outer : Int} {s : List Char}
    (h : ∀ front, front ++ [','] <+: s → outer + depth front ≠ 0) (rest : List Char) :
    pieces outer (s ++ rest)
      = (s ++ (pieces (outer + depth s) rest).1, (pieces (outer + depth s) rest).2) := by
  -- along the text the count moves on from `outer`, and the hypothesis with it
  induction s generalizing outer with
  | nil =>
      rw [List.nil_append, show depth [] = 0 from rfl, Int.add_zero]
      rfl
  | cons c s ih =>
      have within : ¬(c = ',' ∧ outer = 0) := by
        rintro ⟨rfl, rfl⟩
        exact h [] ⟨s, rfl⟩ rfl
      have ih := ih (fun front hfront => by
        have := h (c :: front) (List.prefix_cons_inj c |>.mpr hfront)
        rwa [Text.depth_cons, ← Int.add_assoc] at this)
      rw [List.cons_append, pieces, if_neg within, ih, Text.depth_cons, ← Int.add_assoc]
      rfl

theorem pieces_enclosed {s : List Char} (h : IsEnclosed s) (rest : List Char) :
    pieces 0 (s ++ rest) = (s ++ (pieces 0 rest).1, (pieces 0 rest).2) := by
  have within : ∀ front, front ++ [','] <+: s → (0 : Int) + depth front ≠ 0 := by
    intro front hfront
    have := h.comma front hfront
    omega
  have := pieces_append within rest
  rwa [h.closed] at this

/-- Further arguments as they are written, each after a comma and a blank. -/
def joinRest (arguments : List (List Char)) : List Char :=
  arguments.flatMap fun argument => ',' :: ' ' :: argument

/-- Arguments as they are written. -/
def join : List (List Char) → List Char
  | [] => []
  | first :: rest => first ++ joinRest rest

theorem pieces_joinRest {arguments : List (List Char)} (h : ∀ a ∈ arguments, IsEnclosed a) :
    pieces 0 (joinRest arguments) = ([], arguments.map (' ' :: ·)) := by
  induction arguments with
  | nil => rfl
  | cons a rest ih =>
      have blank : IsEnclosed (' ' :: a) :=
        (h a List.mem_cons_self).cons rfl (by decide)
      have ih := ih fun b member => h b (List.mem_cons_of_mem _ member)
      have split := pieces_enclosed blank (joinRest rest)
      rw [ih, List.append_nil] at split
      show pieces 0 (',' :: ((' ' :: a) ++ joinRest rest)) = _
      rw [pieces, if_pos ⟨rfl, rfl⟩, split]
      rfl

/-- **Arguments are split where they were joined.** One empty argument is the exception: it is
written like no argument at all. -/
theorem splitArguments_join {arguments : List (List Char)} (enclosed : ∀ a ∈ arguments, IsEnclosed a)
    (trimmed : ∀ a ∈ arguments, IsTrimmed a) (h : arguments ≠ [[]]) :
    splitArguments (join arguments) = arguments := by
  cases arguments with
  | nil => rfl
  | cons first rest =>
      have split : pieces 0 (join (first :: rest)) = (first, rest.map (' ' :: ·)) := by
        rw [join, pieces_enclosed (enclosed first List.mem_cons_self),
          pieces_joinRest fun a member => enclosed a (List.mem_cons_of_mem _ member),
          List.append_nil]
      -- behind a comma there is always the blank, so only a single argument can be empty text
      have last : (first :: rest.map (' ' :: ·)).getLast? ≠ some [] := by
        cases rest with
        | nil => simpa using h
        | cons second rest =>
            rw [List.map_cons, List.getLast?_cons_cons, ← List.map_cons, List.getLast?_map]
            simp
      rw [splitArguments, split]
      dsimp only
      rw [dropEmptyLast, if_neg last, List.map_cons, List.map_map,
        (trimmed first List.mem_cons_self).trim]
      congr 1
      refine (List.map_congr_left fun a member => ?_).trans (List.map_id rest)
      show Text.trim (' ' :: a) = a
      rw [Text.trim_cons_blank (by decide), (trimmed a (List.mem_cons_of_mem _ member)).trim]

end Call

end XmlTemplate
