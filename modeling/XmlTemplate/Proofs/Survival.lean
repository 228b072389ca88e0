import XmlTemplate.Proofs.Passes
import XmlTemplate.Render
import XmlTemplate.Template.Compile

/-!
# Placeholders of unknown variables

In lenient mode the placeholder of an unknown variable stays as it was written. That holds of the
placeholders of the text itself, which no later pass sees. A variable can contribute such a
placeholder as well: one that refers to a variable declared after it has it as its value. There the
placeholder does not stay (`exists_unknown_placeholder_lost`). The data pass takes it for a dollar
sign and a placeholder for data, or takes it into a placeholder that is unfinished before it.
`unknown_placeholder_stays_in_text` says what becomes of both kinds.
-/

namespace XmlTemplate

open Placeholder

/-! ## In the text itself -/

/-- An unknown variable parts the pieces: nothing reaches across its placeholder. -/
theorem ofPieces_of_unknown {table : Variables} {name : List Char}
    (unknown : table.get? (String.ofList name) = none) (waiting : List Char)
    (front back : List Piece) :
    Part.ofPieces table waiting (front ++ .placeholder name :: back)
      = Part.ofPieces table waiting front
        ++ .literal (written variableOpening name) :: Part.ofPieces table [] back := by
  induction front generalizing waiting with
  | nil =>
      simp only [List.nil_append, Part.ofPieces, unknown]
  | cons piece front ih =>
      cases piece with
      | char c => exact ih (c :: waiting)
      | placeholder other =>
          rw [List.cons_append, Part.ofPieces, Part.ofPieces]
          cases table.get? (String.ofList other) with
          | some value => exact ih _
          | none =>
              dsimp only
              rw [ih [], List.append_assoc, List.cons_append]

theorem filled_of_unknown {table : Variables} (data : Value) {text name : List Char}
    {front back : List Piece}
    (pieces : split variableOpening text = front ++ .placeholder name :: back)
    (unknown : table.get? (String.ofList name) = none) :
    filled table data text = filled table data (join variableOpening front)
      ++ written variableOpening name ++ filled table data (join variableOpening back) := by
  have left := (split_join_of_append pieces).1
  have right := (split_join_of_append (pieces.trans (List.append_cons _ _ _))).2
  rw [filled, pieces, ofPieces_of_unknown unknown, filled, filled, left, right,
    List.flatMap_append, List.flatMap_cons, ← List.append_assoc]
  rfl

/-! ## In what a variable contributes -/

/-- Behind every opening for data in the text stands a closing brace. -/
def Finished (text : List Char) : Prop :=
  ∀ front path, text = front ++ dataOpening ++ path → '}' ∈ path

/-- A text that is not finished has a first opening without a closing brace. -/
theorem finished_or_exists (text : List Char) : Finished text ∨
    ∃ front path, text = front ++ dataOpening ++ path ∧ '}' ∉ path ∧ Finished front := by
  induction length : text.length using Nat.strongRecOn generalizing text with
  | ind n ih =>
      subst length
      by_cases finished : Finished text
      · exact .inl finished
      · simp only [Finished, Classical.not_forall] at finished
        obtain ⟨front, path, rfl, unclosed⟩ := finished
        rcases ih _ (by simp [dataOpening]) front rfl with
          finished | ⟨first, inner, rfl, unclosed', finished⟩
        · exact .inr ⟨front, path, rfl, unclosed, finished⟩
        · refine .inr ⟨first, inner ++ dataOpening ++ path, by simp, ?_, finished⟩
          simp [dataOpening, unclosed, unclosed']

/-- What ends at the first closing brace ends within a text that has one. -/
theorem concat_prefix_of_mem {body path rest : List Char} (begins : body ++ ['}'] <+: path ++ rest)
    (closed : '}' ∉ body) (closes : '}' ∈ path) : body ++ ['}'] <+: path := by
  rcases List.prefix_or_prefix_of_prefix begins (List.prefix_append path rest) with within | short
  · exact within
  · rcases List.prefix_concat_iff.mp short with same | short
    · exact same ▸ List.prefix_rfl
    · exact absurd (short.subset closes) closed

theorem Finished.apart {text : List Char} (h : Finished text) (rest : List Char) :
    Apart dataOpening text ('$' :: rest) := by
  rintro tail body inside ⟨front, rfl⟩ ⟨nonempty, closed, starts⟩
  have opened : written dataOpening body = '$' :: '{' :: (body ++ ['}']) := rfl
  rw [opened] at starts
  match tail, inside with
  | [_], _ =>
      -- the brace of the opening would have to be the dollar sign
      have second := (List.cons_prefix_cons.mp (List.cons_prefix_cons.mp starts).2).1
      exact absurd second (by decide)
  | first :: second :: path, _ =>
      obtain ⟨rfl, behind⟩ := List.cons_prefix_cons.mp starts
      obtain ⟨rfl, begins⟩ := List.cons_prefix_cons.mp behind
      have closes : '}' ∈ path := h front path (by simp [dataOpening])
      have within := concat_prefix_of_mem begins closed closes
      refine ⟨nonempty, closed, ?_⟩
      rw [opened]
      exact List.cons_prefix_cons.mpr ⟨rfl, List.cons_prefix_cons.mpr ⟨rfl, within⟩⟩

section DataPass

variable (data : Value) {name : List Char} (nonempty : name ≠ []) (closed : '}' ∉ name)

theorem dataPass_append {text rest : List Char} (apart : Apart dataOpening text rest) :
    dataPass data (text ++ rest) = dataPass data text ++ dataPass data rest := by
  rw [dataPass, split_append apart, fill_append]
  rfl

/-- A dollar sign before another one is part of no placeholder for data. -/
theorem dataPass_dollar (rest : List Char) :
    dataPass data ('$' :: '$' :: rest) = '$' :: dataPass data ('$' :: rest) :=
  rfl

include nonempty closed

theorem dataPass_written (after : List Char) :
    dataPass data (written dataOpening name ++ after)
      = foundText (data.lookup? (Text.trim name)) ++ dataPass data after := by
  rw [dataPass, split_written_append nonempty closed]
  rfl

/-- The data pass takes the placeholder of a variable for a dollar sign and a placeholder. -/
theorem dataPass_of_finished {before : List Char} (finished : Finished before)
    (after : List Char) :
    dataPass data (before ++ written variableOpening name ++ after)
      = dataPass data before
        ++ '$' :: (foundText (data.lookup? (Text.trim name)) ++ dataPass data after) := by
  have dollar : dataPass data (written variableOpening name ++ after)
      = '$' :: dataPass data (written dataOpening name ++ after) :=
    dataPass_dollar data ('{' :: (name ++ ['}']) ++ after)
  rw [List.append_assoc, ← dataPass_written data nonempty closed after, ← dollar]
  exact dataPass_append data (finished.apart _)

/-- The data pass takes the placeholder of a variable into one that is unfinished before it. -/
theorem dataPass_of_unfinished {front path : List Char} (finished : Finished front)
    (unclosed : '}' ∉ path) (after : List Char) :
    dataPass data (front ++ dataOpening ++ path ++ written variableOpening name ++ after)
      = dataPass data front
        ++ (foundText (data.lookup? (Text.trim (path ++ variableOpening ++ name)))
          ++ dataPass data after) := by
  have whole : front ++ dataOpening ++ path ++ written variableOpening name ++ after
      = front ++ (written dataOpening (path ++ variableOpening ++ name) ++ after) := by
    simp [written]
  have nonempty' : path ++ variableOpening ++ name ≠ [] := by simp [nonempty]
  have closed' : '}' ∉ path ++ variableOpening ++ name := by
    simp [variableOpening, unclosed, closed]
  rw [whole, ← dataPass_written data nonempty' closed' after]
  exact dataPass_append data (finished.apart _)

end DataPass

/-- The data pass over a text in which the placeholder of a variable stands between `before` and
`after`. What is left of the placeholder is the dollar sign, before what its name leads to in the
data; or it is part of the path of a placeholder for data, the first one that `before` leaves
unfinished. -/
structure TakenApart (data : Value) (passed before name after : List Char) : Prop where
  either : Finished before ∨
    ∃ front path, before = front ++ dataOpening ++ path ∧ '}' ∉ path ∧ Finished front
  alone : Finished before → dataPass data passed = dataPass data before
    ++ '$' :: (foundText (data.lookup? (Text.trim name)) ++ dataPass data after)
  within : ∀ front path, before = front ++ dataOpening ++ path → '}' ∉ path → Finished front →
    dataPass data passed = dataPass data front
      ++ (foundText (data.lookup? (Text.trim (path ++ variableOpening ++ name)))
        ++ dataPass data after)

theorem takenApart (data : Value) {before name after : List Char} (nonempty : name ≠ [])
    (closed : '}' ∉ name) :
    TakenApart data (before ++ written variableOpening name ++ after) before name after where
  either := finished_or_exists before
  alone finished := dataPass_of_finished data nonempty closed finished after
  within := by
    rintro front path rfl unclosed finished
    exact dataPass_of_unfinished data nonempty closed finished unclosed after

/--
**The placeholder of an unknown variable stays in the text, and only there.**

Each one that the text itself has is in the result as it is written, between what the texts before
and behind it become on their own. But where the placeholder of a variable is made up by what known
variables contribute, on its own or together with the text around, it does not stay: in whichever
segment between unknown variables it is, the data pass takes it apart.
-/
theorem unknown_placeholder_stays_in_text (table : Variables) (data : Value) (text : List Char) :
    (∀ front name back, split variableOpening text = front ++ .placeholder name :: back →
      table.get? (String.ofList name) = none → ∃ before after,
        (substitute .lenient table data (join variableOpening front)).result = .ok before ∧
        (substitute .lenient table data (join variableOpening back)).result = .ok after ∧
        (substitute .lenient table data text).result
          = .ok (before ++ written variableOpening name ++ after)) ∧
    (∀ first more, CutAtUnknown table (split variableOpening text) first more →
      (substitute .lenient table data text).result
        = .ok (dataPass data (variablePass table first) ++ more.flatMap fun part =>
          written variableOpening part.1 ++ dataPass data (variablePass table part.2)) ∧
      ∀ segment ∈ first :: more.map Prod.snd, ∀ before name after, name ≠ [] → '}' ∉ name →
        variablePass table segment = before ++ written variableOpening name ++ after →
        TakenApart data (variablePass table segment) before name after) := by
  constructor
  · intro front name back pieces unknown
    refine ⟨_, _, result_substitute _ _ _, result_substitute _ _ _, ?_⟩
    rw [result_substitute, filled_of_unknown data pieces unknown]
  · intro first more cut
    refine ⟨result_substitute_of_cut data cut, ?_⟩
    intro segment _ before name after nonempty closed contributed
    rw [contributed]
    exact takenApart data nonempty closed

/-- The first variable refers to one that is not declared. -/
def forwardDocument : Yaml.Node :=
  .map [
    (.string "root", .string "r"),
    (.string "variables", .map [(.string "A", .string "$${B}")]),
    (.string "elements", .map [(.string "e", .string "$${A}")])]

def forwardTemplate : Template where
  root := "r"
  declarations := [("A", .string "$${B}")]
  globals := Dictionary.empty.put "A" (.string "$${B}")
  elements := [("e", .leaf (.string "$${A}"))]

/-- The data have an entry with the name of the unknown variable. -/
def forwardData : Value :=
  .map [("B", .string "x")]

/-- A placeholder for data that has no closing brace. -/
def unfinishedText : List Char :=
  ['$', '{', 'p', ' ']

/-- The placeholder `$${B}` in the text itself, contributed behind it, and contributed behind an
opening for data. -/
theorem unknown_placeholder_stays_in_text_forward :
    (∃ before after,
      (substitute .lenient forwardTemplate.globals forwardData ['a']).result = .ok before ∧
      (substitute .lenient forwardTemplate.globals forwardData "$${A}".toList).result = .ok after ∧
      (substitute .lenient forwardTemplate.globals forwardData "a$${B}$${A}".toList).result
        = .ok (before ++ "$${B}".toList ++ after)) ∧
    (substitute .lenient forwardTemplate.globals forwardData "a$${B}$${A}".toList).result
      = .ok "a$${B}$x".toList ∧
    (substitute .lenient forwardTemplate.globals forwardData
      (unfinishedText ++ "$${A}q".toList)).result = .ok ['q'] := by
  obtain ⟨own, contributed⟩ := unknown_placeholder_stays_in_text forwardTemplate.globals
    forwardData "a$${B}$${A}".toList
  obtain ⟨-, inside⟩ := unknown_placeholder_stays_in_text forwardTemplate.globals forwardData
    (unfinishedText ++ "$${A}q".toList)
  have finished : Finished [] := by
    rintro front path empty
    simp [dataOpening] at empty
  refine ⟨own [.char 'a'] ['B'] [.placeholder ['A']] (by decide) (by decide), ?_, ?_⟩
  · have cut : CutAtUnknown forwardTemplate.globals
        (split variableOpening "a$${B}$${A}".toList) [.char 'a'] [(['B'], [.placeholder ['A']])] :=
      ⟨by decide, List.forall_mem_singleton.mpr rfl, by simp [forwardTemplate]⟩
    obtain ⟨joined, taken⟩ := contributed _ _ cut
    have apart := taken [.placeholder ['A']] (by decide) [] ['B'] [] (by decide) (by decide)
      (by decide)
    rw [joined, List.flatMap_cons, apart.alone finished]
    rfl
  · have cut : CutAtUnknown forwardTemplate.globals
        (split variableOpening (unfinishedText ++ "$${A}q".toList))
        (unfinishedText.map .char ++ [.placeholder ['A'], .char 'q']) [] :=
      ⟨by decide, by simp, by simp [forwardTemplate, unfinishedText]⟩
    obtain ⟨joined, taken⟩ := inside _ _ cut
    have apart := taken _ List.mem_cons_self unfinishedText ['B'] ['q'] (by decide) (by decide)
      (by decide)
    rw [joined, apart.within [] ['p', ' '] (by decide) (by decide) finished]
    rfl

/-- What a variable contributes need not stay, also in the render of a compiled template. -/
theorem exists_unknown_placeholder_lost :
    (Template.compile .lenient forwardDocument).result = .ok forwardTemplate ∧
    String.ofList (forwardTemplate.render .lenient { data := .ok forwardData }).written
      = "<r><e>$x</e></r>" ∧
    ¬∀ (table : Variables) (data : Value) (text name result : List Char),
      name ≠ [] → '}' ∉ name → table.get? (String.ofList name) = none →
      written variableOpening name <:+: variablePass table (split variableOpening text) →
      (substitute .lenient table data text).result = .ok result →
      written variableOpening name <:+: result := by
  refine ⟨by with_unfolding_all rfl, by decide +kernel, fun stays => ?_⟩
  have lost := stays forwardTemplate.globals forwardData "$${A}".toList ['B'] "$x".toList
    (by decide) (by decide) (by decide) (by decide) (by with_unfolding_all rfl)
  exact absurd lost (by decide)

end XmlTemplate
