import XmlTemplate.Text.Blank

/-!
# Calls

The shape of a function call, `NAME(argument, …)`, and how its argument text is split: at the commas
outside all round brackets, each argument without the white space at its ends. No piece is longer
than the text it was cut from (`length_le_of_mem_splitArguments`).
-/

namespace XmlTemplate

/-- A call that has not been looked into: a name and the text between the outer brackets. -/
structure Call where
  name : List Char
  arguments : List Char
deriving Repr, DecidableEq

namespace Call

/-- Reads one or more capital letters, an opening bracket, any text on one line, and a closing
bracket at the very end. -/
def parse? (body : List Char) : Option Call :=
  let name := body.takeWhile Char.isUpper
  match body.dropWhile Char.isUpper with
  | '(' :: rest =>
    -- the bracket that closes the call is the last one, whatever stands before it
    if name ≠ [] ∧ rest.getLast? = some ')' ∧ '\n' ∉ rest.dropLast then
      some ⟨name, rest.dropLast⟩
    else none
  | _ => none

/-- How far a character changes the depth of nesting. -/
def nesting (c : Char) : Int :=
  if c = '(' then 1 else if c = ')' then -1 else 0

/-- The text up to the first comma at depth zero, and the pieces after it. -/
def pieces : Int → List Char → List Char × List (List Char)
  | _, [] => ([], [])
  | depth, c :: rest =>
    if c = ',' ∧ depth = 0 then
      let (first, more) := pieces depth rest
      ([], first :: more)
    else
      let (first, more) := pieces (depth + nesting c) rest
      (c :: first, more)

/-- The list without its last piece, if that is empty. -/
def dropEmptyLast (pieces : List (List Char)) : List (List Char) :=
  if pieces.getLast? = some [] then pieces.dropLast else pieces

/-- The arguments of a call. After the last comma there is an argument only if there is text. -/
def splitArguments (text : List Char) : List (List Char) :=
  let (first, more) := pieces 0 text
  (dropEmptyLast (first :: more)).map Text.trim

/-! ## Sizes -/

theorem length_pieces (depth : Int) (text : List Char) :
    ∀ piece ∈ (pieces depth text).1 :: (pieces depth text).2, piece.length ≤ text.length := by
  induction text generalizing depth with
  | nil => simp [pieces]
  | cons c rest ih =>
    intro piece member
    simp only [pieces] at member
    split at member
    · rcases List.mem_cons.mp member with rfl | member
      · simp
      · have := ih depth piece member
        simp only [List.length_cons]
        omega
    · rcases List.mem_cons.mp member with rfl | member
      · have := ih (depth + nesting c) _ (List.mem_cons_self ..)
        simp only [List.length_cons]
        omega
      · have := ih (depth + nesting c) piece (List.mem_cons_of_mem _ member)
        simp only [List.length_cons]
        omega

theorem mem_of_mem_dropEmptyLast {pieces : List (List Char)} {piece : List Char}
    (h : piece ∈ dropEmptyLast pieces) : piece ∈ pieces := by
  unfold dropEmptyLast at h
  split at h
  · exact (List.dropLast_sublist _).subset h
  · exact h

/-- No argument is longer than the text. -/
theorem length_le_of_mem_splitArguments {text argument : List Char}
    (h : argument ∈ splitArguments text) : argument.length ≤ text.length := by
  simp only [splitArguments, List.mem_map] at h
  obtain ⟨piece, member, rfl⟩ := h
  exact Nat.le_trans (Text.length_trim_le piece)
    (length_pieces 0 text piece (mem_of_mem_dropEmptyLast member))

/-- The argument text is shorter than the body. -/
theorem length_arguments_lt {body : List Char} {call : Call} (h : parse? body = some call) :
    call.arguments.length < body.length := by
  simp only [parse?] at h
  split at h
  · rename_i rest dropped
    split at h
    · cases h
      have := (List.dropWhile_suffix Char.isUpper (l := body)).length_le
      rw [dropped] at this
      simp only [List.length_cons, List.length_dropLast] at *
      omega
    · contradiction
  · contradiction

end Call

end XmlTemplate
