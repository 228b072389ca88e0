import XmlTemplate.Proofs.Scanning
import XmlTemplate.Proofs.Term

/-!
# Two passes over a text

Placeholders are specified as two passes over a text: one that replaces those of variables, and one
over what is then there, which replaces those for data. `substitute` does both in one pass, with a
text that waits for the second. What a variable contributes can make a placeholder for data together
with the text around it, so the second pass cannot be had piece by piece; but nothing reaches across
the placeholder of an unknown variable. `substitute_eq_two_passes` says that the one pass gives what
the two do.
-/

namespace XmlTemplate

open Placeholder

/-! ## The passes -/

/-- The text that stands for what was found. For nothing there is none. -/
def foundText (found : Option Value) : List Char :=
  (found.map fun value => value.display.toList).getD []

/-- The pieces with the placeholders of variables replaced. -/
def variablePass (table : Variables) (pieces : List Piece) : List Char :=
  fill (fun name => foundText (table.get? (String.ofList name))) pieces

/-- The text with the placeholders for data replaced. White space around a path does not count. -/
def dataPass (data : Value) (text : List Char) : List Char :=
  fill (fun path => foundText (data.lookup? (Text.trim path))) (split dataOpening text)

theorem variablePass_append (table : Variables) (front back : List Piece) :
    variablePass table (front ++ back) = variablePass table front ++ variablePass table back :=
  fill_append _ front back

/-- The data pass is the second round of a term. -/
theorem render_ofText (data : Value) (text : List Char) :
    (Part.ofText text).flatMap (Part.render data) = dataPass data text := by
  rw [Part.ofText, List.flatMap_map, dataPass, fill]
  congr 1
  funext piece
  cases piece <;> rfl

theorem dataPass_of_no_opening (data : Value) {text : List Char}
    (h : ¬dataOpening <:+: text) : dataPass data text = text := by
  rw [dataPass, split_of_no_opening h, fill_map_char]

/-! ## The cut at unknown variables -/

/-- The pieces fall into segments: the first one, and one behind each placeholder of an unknown
variable. In the segments all variables are known. -/
structure CutAtUnknown (table : Variables) (pieces first : List Piece)
    (more : List (List Char × List Piece)) : Prop where
  whole : pieces = first ++ more.flatMap fun part => .placeholder part.1 :: part.2
  unknown : ∀ part ∈ more, table.get? (String.ofList part.1) = none
  known : ∀ segment ∈ first :: more.map Prod.snd, ∀ name, .placeholder name ∈ segment →
    table.get? (String.ofList name) ≠ none

section Cut

variable {table : Variables} {pieces first : List Piece}
  {more : List (List Char × List Piece)}

theorem exists_cutAtUnknown (table : Variables) (pieces : List Piece) :
    ∃ first more, CutAtUnknown table pieces first more := by
  induction pieces with
  | nil =>
      refine ⟨[], [], rfl, by simp, fun segment member name inside => ?_⟩
      rw [List.mem_singleton.mp member] at inside
      exact absurd inside List.not_mem_nil
  | cons piece rest ih =>
      obtain ⟨first, more, rfl, unknown, known⟩ := ih
      by_cases cuts : ∃ name, piece = .placeholder name ∧ table.get? (String.ofList name) = none
      · obtain ⟨name, rfl, absent⟩ := cuts
        refine ⟨[], (name, first) :: more, rfl, List.forall_mem_cons.mpr ⟨absent, unknown⟩,
          List.forall_mem_cons.mpr ⟨?_, known⟩⟩
        exact fun _ inside => absurd inside List.not_mem_nil
      · obtain ⟨knownFirst, knownMore⟩ := List.forall_mem_cons.mp known
        refine ⟨piece :: first, more, rfl, unknown, List.forall_mem_cons.mpr ⟨?_, knownMore⟩⟩
        intro name inside absent
        rcases List.mem_cons.mp inside with same | inside
        · exact cuts ⟨name, same.symm, absent⟩
        · exact knownFirst name inside absent

/-- Where all variables are known, the text only waits. -/
theorem ofPieces_of_known (known : ∀ name, .placeholder name ∈ first →
      table.get? (String.ofList name) ≠ none) (waiting : List Char) (rest : List Piece) :
    Part.ofPieces table waiting (first ++ rest)
      = Part.ofPieces table ((variablePass table first).reverse ++ waiting) rest := by
  induction first generalizing waiting with
  | nil => rfl
  | cons piece first ih =>
      have step : Part.ofPieces table waiting (piece :: (first ++ rest))
          = Part.ofPieces table ((variablePass table [piece]).reverse ++ waiting)
            (first ++ rest) := by
        cases piece with
        | char c => rfl
        | placeholder name =>
            obtain ⟨value, found⟩ := Option.ne_none_iff_exists'.mp (known name List.mem_cons_self)
            rw [Part.ofPieces, found]
            simp [variablePass, fill, Piece.fill, foundText, found]
      rw [← List.singleton_append, variablePass_append, List.reverse_append, List.append_assoc,
        List.append_assoc]
      exact step.trans (ih (fun name inside => known name (List.mem_cons_of_mem _ inside)) _)

/-- What the pieces stand for, segment by segment. -/
theorem render_ofPieces_of_cut (data : Value) (cut : CutAtUnknown table pieces first more) :
    (Part.ofPieces table [] pieces).flatMap (Part.render data)
      = dataPass data (variablePass table first) ++ more.flatMap fun part =>
        written variableOpening part.1 ++ dataPass data (variablePass table part.2) := by
  obtain ⟨rfl, unknown, known⟩ := cut
  induction more generalizing first with
  | nil =>
      obtain ⟨known, -⟩ := List.forall_mem_cons.mp known
      rw [List.flatMap_nil, List.flatMap_nil, ofPieces_of_known known, Part.ofPieces,
        List.append_nil, List.append_nil, List.reverse_reverse, render_ofText]
  | cons part more ih =>
      obtain ⟨name, segment⟩ := part
      obtain ⟨absent, unknown⟩ := List.forall_mem_cons.mp unknown
      obtain ⟨known, knownMore⟩ := List.forall_mem_cons.mp known
      rw [List.flatMap_cons, List.flatMap_cons, ofPieces_of_known known, List.append_nil,
        List.cons_append, Part.ofPieces, absent]
      dsimp only
      rw [List.flatMap_append, List.reverse_reverse, render_ofText, List.flatMap_cons,
        ih unknown knownMore]
      simp [Part.render]

theorem result_substitute_of_cut (data : Value) {text : List Char}
    (cut : CutAtUnknown table (split variableOpening text) first more) :
    (substitute .lenient table data text).result
      = .ok (dataPass data (variablePass table first) ++ more.flatMap fun part =>
        written variableOpening part.1 ++ dataPass data (variablePass table part.2)) := by
  rw [result_substitute, filled, render_ofPieces_of_cut data cut]

end Cut

/-- If all variables of the text are known, the whole text goes through both passes. -/
theorem result_substitute_of_known {table : Variables} (data : Value) {text : List Char}
    (known : ∀ name, .placeholder name ∈ split variableOpening text →
      table.get? (String.ofList name) ≠ none) :
    (substitute .lenient table data text).result
      = .ok (dataPass data (variablePass table (split variableOpening text))) := by
  have cut : CutAtUnknown table (split variableOpening text) (split variableOpening text) [] :=
    ⟨(List.append_nil _).symm, by simp, List.forall_mem_cons.mpr ⟨known, by simp⟩⟩
  rw [result_substitute_of_cut data cut, List.flatMap_nil, List.append_nil]

theorem result_substitute_of_no_opening (table : Variables) (data : Value) {text : List Char}
    (h : ¬dataOpening <:+: text) : (substitute .lenient table data text).result = .ok text := by
  -- a placeholder of a variable has the opening of one for data inside its own
  have noVariable : ¬variableOpening <:+: text := fun inside =>
    h ((List.suffix_cons '$' dataOpening).isInfix.trans inside)
  have noPlaceholder (name : List Char) : .placeholder name ∉ split variableOpening text := by
    rw [split_of_no_opening noVariable]
    simp
  rw [result_substitute_of_known data fun name inside => absurd inside (noPlaceholder name),
    split_of_no_opening noVariable, variablePass, fill_map_char, dataPass_of_no_opening data h]

/--
**One pass over a text does what two are specified to do.**

Placeholders are the leftmost ones that do not overlap, for either opening. Let the placeholders of
unknown variables cut a text into segments, as they always do. The result then consists of what the
data pass makes of the variable pass of each segment, with those placeholders between them as they
are written. So if all variables are known, it is the data pass of the variable pass of the whole
text; and a text in which the opening for data does not occur stays as it is.
-/
theorem substitute_eq_two_passes (table : Variables) (data : Value) (text : List Char) :
    (∀ opening whole pieces, Leftmost opening whole pieces ↔ split opening whole = pieces) ∧
    (∃ first more, CutAtUnknown table (split variableOpening text) first more) ∧
    (∀ first more, CutAtUnknown table (split variableOpening text) first more →
      (substitute .lenient table data text).result
        = .ok (dataPass data (variablePass table first) ++ more.flatMap fun part =>
          written variableOpening part.1 ++ dataPass data (variablePass table part.2))) ∧
    ((∀ name, .placeholder name ∈ split variableOpening text →
        table.get? (String.ofList name) ≠ none) →
      (substitute .lenient table data text).result
        = .ok (dataPass data (variablePass table (split variableOpening text)))) ∧
    (¬dataOpening <:+: text → (substitute .lenient table data text).result = .ok text) :=
  ⟨fun _ _ _ => leftmost_iff, exists_cutAtUnknown table _,
    fun _ _ cut => result_substitute_of_cut data cut, result_substitute_of_known data,
    result_substitute_of_no_opening table data⟩

/-- A variable that contributes what the opening for data begins with. -/
def dollarTable : Variables :=
  Dictionary.empty.put "A" (.string "$")

def combiningData : Value :=
  .map [("p", .string "v")]

/-- The opening and the braces come from different sides, but not behind the unknown variable. -/
def combiningText : List Char :=
  "$${A}{p} $${B}{p}$${A}".toList

/-- The braces that become a placeholder behind `A`. -/
def braced : List Piece :=
  [.char '{', .char 'p', .char '}']

theorem substitute_eq_two_passes_combining :
    CutAtUnknown dollarTable (split variableOpening combiningText)
        (.placeholder ['A'] :: braced ++ [.char ' ']) [(['B'], braced ++ [.placeholder ['A']])] ∧
      (substitute .lenient dollarTable combiningData combiningText).result
        = .ok "v $${B}{p}$".toList ∧
      (substitute .lenient dollarTable combiningData "$${A}{p}".toList).result = .ok ['v'] ∧
      (substitute .lenient dollarTable combiningData "{p}$".toList).result = .ok "{p}$".toList := by
  have cut : CutAtUnknown dollarTable (split variableOpening combiningText)
      (.placeholder ['A'] :: braced ++ [.char ' ']) [(['B'], braced ++ [.placeholder ['A']])] := by
    refine ⟨by decide, List.forall_mem_singleton.mpr rfl, ?_⟩
    simp [dollarTable, braced]
  have known (name : List Char) (inside : .placeholder name ∈ split variableOpening
      "$${A}{p}".toList) : dollarTable.get? (String.ofList name) ≠ none := by
    have pieces : split variableOpening "$${A}{p}".toList = .placeholder ['A'] :: braced := by
      decide
    rw [pieces] at inside
    simp [braced] at inside
    subst inside
    simp [dollarTable]
  obtain ⟨-, -, joined, -, -⟩ := substitute_eq_two_passes dollarTable combiningData combiningText
  obtain ⟨-, -, -, whole, -⟩ := substitute_eq_two_passes dollarTable combiningData "$${A}{p}".toList
  obtain ⟨-, -, -, -, same⟩ := substitute_eq_two_passes dollarTable combiningData "{p}$".toList
  exact ⟨cut, joined _ _ cut, whole known, same (by decide)⟩

end XmlTemplate
