import XmlTemplate.Template.Compile
import XmlTemplate.Proofs.Lookup
import XmlTemplate.Proofs.Table

/-!
# Template variables are immune to the caller

A render evaluates the declarations of a template a second time, on top of the table that was built
at compilation, and the caller's declarations can move them in front of the variables that they
refer to. If every expression of the template looks up only names declared before it, none of this
changes anything: after every step the table has, under the names of the template, what it had at
compilation. That is the invariant `Variables.AgreeOn template.declarations.names`, and
`evaluate_globals` is why a step keeps it: under the compiled table, every expression of the
template evaluates to what the table has under its name.
-/

namespace XmlTemplate

/-- Every expression looks up only names that are declared before it. -/
def Declarations.Backward (declarations : Declarations) : Prop :=
  ∀ (before after : Declarations) (name : String) (expression : Value),
    declarations = before ++ (name, expression) :: after →
    ∀ other ∈ expression.lookups, other ∈ before.names

/-! ## The table of the compilation -/

section Compiled

variable {mode : Mode} {declarations : Declarations} {globals : Variables}

/-- A table that is built from nothing has no more than the declared names. -/
theorem mem_names_of_get?_extend {name : String}
    (built : (Variables.extend mode .empty declarations).result = .ok globals)
    (h : globals.get? name ≠ none) : name ∈ declarations.names := by
  by_cases declared : name ∈ declarations.names
  · exact declared
  · rw [Variables.get?_extend_of_not_mem built declared, Dictionary.get?_empty] at h
    exact absurd rfl h

/-- Strict mode lets an expression look up only what stands before it. -/
theorem backward_of_strict
    (built : (Variables.extend .strict .empty declarations).result = .ok globals) :
    declarations.Backward := by
  intro before after name expression split other lookedUp
  rw [split] at built
  obtain ⟨between, first, second⟩ := Variables.extend_append_eq_ok.mp built
  obtain ⟨value, evaluated, _⟩ := Variables.extend_cons_eq_ok.mp second
  exact mem_names_of_get?_extend first (Value.lookups_known evaluated other lookedUp)

/-- Under the compiled table, every expression evaluates to what the table has under its name. -/
theorem evaluate_globals (built : (Variables.extend mode .empty declarations).result = .ok globals)
    (distinct : declarations.names.Nodup) (backward : declarations.Backward)
    {name : String} {expression : Value} (member : (name, expression) ∈ declarations) :
    ∃ value, globals.get? name = some value
      ∧ (expression.evaluate mode globals .null).result = .ok value := by
  obtain ⟨before, after, split⟩ := List.append_of_mem member
  have earlier := backward before after name expression split
  rw [split] at built distinct
  obtain ⟨between, first, second⟩ := Variables.extend_append_eq_ok.mp built
  obtain ⟨value, evaluated, rest⟩ := Variables.extend_cons_eq_ok.mp second
  -- neither the name nor the ones before it are declared again behind it
  rw [Declarations.names, List.map_append, List.map_cons, List.nodup_append, List.nodup_cons]
    at distinct
  obtain ⟨-, ⟨fresh, -⟩, apart⟩ := distinct
  have agree : Variables.AgreeOn expression.lookups globals between := by
    intro other lookedUp
    have declared := earlier other lookedUp
    have later : other ∉ Declarations.names after := fun again =>
      apart other declared other (List.mem_cons_of_mem _ again) rfl
    have ne : name ≠ other := fun same => apart other declared name List.mem_cons_self same.symm
    rw [Variables.get?_extend_of_not_mem rest later, Dictionary.get?_put_of_ne _ ne]
  refine ⟨value, ?_, ?_⟩
  · rw [Variables.get?_extend_of_not_mem rest fresh, Dictionary.get?_put_self]
  · rw [Value.evaluate_congr mode .null agree]
    exact evaluated

end Compiled

/-! ## The table of a render -/

section Rendered

variable {compiled mode : Mode} {declarations : Declarations} {globals : Variables}

/-- What the template declares is evaluated as at compilation, wherever the merge has moved it. -/
theorem evaluate_of_agree
    (built : (Variables.extend compiled .empty declarations).result = .ok globals)
    (distinct : declarations.names.Nodup) (backward : declarations.Backward)
    {table : Variables} (agree : Variables.AgreeOn declarations.names table globals)
    {name : String} {expression : Value} (member : (name, expression) ∈ declarations) :
    ∃ value, globals.get? name = some value
      ∧ (expression.evaluate compiled table .null).result = .ok value := by
  obtain ⟨value, found, evaluated⟩ := evaluate_globals built distinct backward member
  obtain ⟨before, after, split⟩ := List.append_of_mem member
  have known : ∀ other ∈ expression.lookups, other ∈ declarations.names := by
    intro other lookedUp
    have := backward before after name expression split other lookedUp
    rw [split, Declarations.names, List.map_append]
    exact List.mem_append_left _ this
  refine ⟨value, found, ?_⟩
  rw [Value.evaluate_congr compiled .null (agree.mono known)]
  exact evaluated

/-- **The invariant of building a table.** If it has the compiled values under the names of the
template, it keeps them, as long as these names get no other expressions than in the template. -/
theorem agree_extend
    (built : (Variables.extend compiled .empty declarations).result = .ok globals)
    (distinct : declarations.names.Nodup) (backward : declarations.Backward)
    {merged : Declarations}
    (own : ∀ name expression, (name, expression) ∈ merged → name ∈ declarations.names →
      (name, expression) ∈ declarations)
    {table final : Variables} (agree : Variables.AgreeOn declarations.names table globals)
    (extended : (Variables.extend mode table merged).result = .ok final) :
    Variables.AgreeOn declarations.names final globals := by
  induction merged generalizing table with
  | nil =>
      cases extended
      exact agree
  | cons declaration rest ih =>
      obtain ⟨name, expression⟩ := declaration
      obtain ⟨value, evaluated, extended⟩ := Variables.extend_cons_eq_ok.mp extended
      refine ih (fun n e member => own n e (List.mem_cons_of_mem _ member)) ?_ extended
      intro other declared
      by_cases same : name = other
      · -- a name of the template: its expression gives the value that it gave at compilation
        subst same
        obtain ⟨value', found, evaluated'⟩ := evaluate_of_agree built distinct backward agree
          (own name expression List.mem_cons_self declared)
        rw [Dictionary.get?_put_self, found, Value.evaluate_unique evaluated evaluated']
      · rw [Dictionary.get?_put_of_ne _ same]
        exact agree other declared

/-- Whatever part of the merged declarations has been evaluated, the names of the template have
their compiled values. -/
theorem agree_merge
    (built : (Variables.extend compiled .empty declarations).result = .ok globals)
    (distinct : declarations.names.Nodup) (backward : declarations.Backward)
    {runtime before after : Declarations}
    (split : Declarations.merge runtime declarations = before ++ after) {table : Variables}
    (extended : (Variables.extend mode globals before).result = .ok table) :
    Variables.AgreeOn declarations.names table globals := by
  have own : ∀ name expression, (name, expression) ∈ before → name ∈ declarations.names →
      (name, expression) ∈ declarations := by
    intro name expression early declared
    have merged : (name, expression) ∈ Declarations.merge runtime declarations := by
      rw [split]
      exact List.mem_append_left _ early
    exact Declarations.mem_template_of_mem_merge merged declared
  exact agree_extend built distinct backward own (fun _ _ => rfl) extended

end Rendered

/-- A compiled template has the table that its declarations build from nothing. -/
theorem Template.globals_of_compile {mode : Mode} {document : Yaml.Node} {template : Template}
    (h : (Template.compile mode document).result = .ok template) :
    (Variables.extend mode .empty template.declarations).result = .ok template.globals := by
  rw [Template.compile] at h
  split at h
  · obtain ⟨root, _, h⟩ := Run.result_bind_eq_ok h
    obtain ⟨_, _, h⟩ := Run.result_bind_eq_ok h
    obtain ⟨declarations, _, h⟩ := Run.result_bind_eq_ok h
    obtain ⟨elements, _, h⟩ := Run.result_bind_eq_ok h
    obtain ⟨globals, built, h⟩ := Run.result_bind_eq_ok h
    obtain ⟨_, _, h⟩ := Run.result_bind_eq_ok h
    cases h
    exact built
  · exact absurd h (by simp [Run.fail])

/--
**Template variables are immune to runtime variables.**

Let the template declare no name twice. If it compiles in strict mode, its expressions look up only
names declared before them. If they do, then whatever the caller declares, in whatever order and in
either mode of rendering: a table that is built has, under every name of the template, the value of
the compilation; and in the mode of the compilation no variable of the template is what building
fails at.
-/
theorem template_variables_immune {compiled : Mode} {document : Yaml.Node} {template : Template}
    (h : (Template.compile compiled document).result = .ok template)
    (distinct : template.declarations.names.Nodup) :
    (compiled = .strict → template.declarations.Backward) ∧
    (template.declarations.Backward → ∀ runtime : Declarations,
      (∀ mode table, (template.table mode runtime).result = .ok table →
        ∀ name ∈ template.declarations.names, ∃ value,
          template.globals.get? name = some value ∧ table.get? name = some value) ∧
      ∀ before name expression after table,
        Declarations.merge runtime template.declarations = before ++ (name, expression) :: after →
        name ∈ template.declarations.names →
        (Variables.extend compiled template.globals before).result = .ok table →
        ∃ value, template.globals.get? name = some value
          ∧ (expression.evaluate compiled table .null).result = .ok value) := by
  have built := Template.globals_of_compile h
  refine ⟨fun strict => backward_of_strict (strict ▸ built), ?_⟩
  intro backward runtime
  constructor
  · intro mode table extended name declared
    obtain ⟨⟨_, expression⟩, member, rfl⟩ := List.mem_map.mp declared
    obtain ⟨value, found, _⟩ := evaluate_globals built distinct backward member
    have agree := agree_merge built distinct backward (List.append_nil _).symm extended
    exact ⟨value, found, (agree _ declared).trans found⟩
  · intro before name expression after table split declared extended
    have agree := agree_merge built distinct backward split extended
    have merged : (name, expression) ∈ Declarations.merge runtime template.declarations := by
      rw [split]
      exact List.mem_append_right _ List.mem_cons_self
    exact evaluate_of_agree built distinct backward agree
      (Declarations.mem_template_of_mem_merge merged declared)

/-- A template with a variable that refers to one before it. -/
def movedDocument : Yaml.Node :=
  .map [
    (.string "root", .string "r"),
    (.string "variables", .map [
      (.string "A", .string "x"),
      (.string "B", .string "$${A}y")]),
    (.string "elements", .null)]

def movedTemplate : Template where
  root := "r"
  declarations := [("A", .string "x"), ("B", .string "$${A}y")]
  globals := (Dictionary.empty.put "A" (.string "x")).put "B" (.string "xy")
  elements := []

/-- A runtime variable under the name of the second variable moves that in front of the first. -/
def movingDeclarations : Declarations :=
  [("B", .string "z"), ("C", .string "$${B}")]

/-- The second variable keeps its value, also where it comes first. -/
theorem template_variables_immune_moved :
    (Template.compile .strict movedDocument).result = .ok movedTemplate ∧
    Declarations.merge movingDeclarations movedTemplate.declarations
        = [("B", .string "$${A}y"), ("C", .string "$${B}"), ("A", .string "x")] ∧
    ∃ table, (movedTemplate.table .strict movingDeclarations).result = .ok table
      ∧ movedTemplate.globals.get? "B" = some (.string "xy")
      ∧ table.get? "B" = some (.string "xy") := by
  have compiled : (Template.compile .strict movedDocument).result = .ok movedTemplate := by
    with_unfolding_all rfl
  obtain ⟨backward, immune⟩ := template_variables_immune compiled (by decide)
  have builds : (movedTemplate.table .strict movingDeclarations).result.isOk = true := by
    decide +kernel
  have known : movedTemplate.globals.get? "B" = some (.string "xy") :=
    Dictionary.get?_put_self _ _ _
  cases built : (movedTemplate.table .strict movingDeclarations).result with
  | error e => rw [built] at builds; cases builds
  | ok table =>
      obtain ⟨value, found, kept⟩ := (immune (backward rfl) _).1 _ _ built "B" (by decide)
      cases known.symm.trans found
      exact ⟨compiled, rfl, table, rfl, known, kept⟩

end XmlTemplate
