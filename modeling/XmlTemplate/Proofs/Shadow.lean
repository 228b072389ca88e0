import XmlTemplate.Proofs.Failure
import XmlTemplate.Proofs.Immunity
import XmlTemplate.Proofs.Reorder

/-!
# Shadowed variables

A caller can declare a variable under a name that the template declares too. The expression of the
template takes the place of the caller's, so what the caller wrote is lost. But the place counts: it
decides which variables the expression of the template finds. That is why a shadowed variable can
change a render (`exists_shadowed_variable_seen`), and why it cannot where places do not matter: in
a template that refers only backwards, or as long as no reference is disturbed
(`shadowed_variables_unseen`).
-/

namespace XmlTemplate

namespace Entries

variable {α : Type}

/-- Among the entries whose keys pass a test, what is found is what was found before, under a key
that passes. -/
theorem get?_filter (test : String → Bool) (key : String) (entries : Entries α) :
    get? key (entries.filter fun entry => test entry.1)
      = if test key then get? key entries else none := by
  induction entries with
  | nil => simp [get?]
  | cons entry rest ih =>
      obtain ⟨k, value⟩ := entry
      by_cases same : k = key
      · subst same
        by_cases passes : test k
        · simp [passes, get?]
        · simpa [passes] using ih
      · rw [get?, if_neg same, ← ih]
        by_cases passes : test k <;> simp [passes, get?, same]

end Entries

/-! ## The declarations that are not shadowed -/

namespace Declarations

theorem filter_assign (test : String → Bool) (name : String) (expression : Value)
    (declarations : Declarations) :
    (assign name expression declarations).filter (fun d => test d.1)
      = if test name then assign name expression (declarations.filter fun d => test d.1)
        else declarations.filter fun d => test d.1 := by
  induction declarations with
  | nil => by_cases passes : test name <;> simp [assign, passes]
  | cons declaration rest ih =>
      obtain ⟨n, old⟩ := declaration
      by_cases same : n = name
      · subst same
        by_cases passes : test n <;> simp [assign, passes]
      · rw [assign, if_neg same]
        by_cases kept : test n
        · by_cases passes : test name <;> simp [kept, passes, ih, assign, same]
        · simp [kept, ih]

/-- Assigning goes name by name, so a test on names can be made before or after. -/
theorem filter_assignAll (test : String → Bool) (declarations more : Declarations) :
    (assignAll declarations more).filter (fun d => test d.1)
      = assignAll (declarations.filter fun d => test d.1) (more.filter fun d => test d.1) := by
  induction more generalizing declarations with
  | nil => rfl
  | cons declaration rest ih =>
      show (assignAll (assign declaration.1 declaration.2 declarations) rest).filter _ = _
      rw [ih, filter_assign]
      by_cases passes : test declaration.1 <;> simp [passes, assignAll]

/-- The declarations whose names are not among those of the template. -/
def unshadowed (template runtime : Declarations) : Declarations :=
  runtime.filter fun d => d.1 ∉ template.names

variable (template runtime : Declarations)

theorem unshadowed_self : unshadowed template template = [] := by
  refine List.filter_eq_nil_iff.mpr (fun declaration member => ?_)
  have declared : declaration.1 ∈ template.names := List.mem_map_of_mem member
  simpa using declared

/-- Beside the names of the template, both lists are merged to the same. -/
theorem unshadowed_merge : unshadowed template (merge runtime template)
    = unshadowed template (merge (unshadowed template runtime) template) := by
  have merged : ∀ other, unshadowed template (merge other template)
      = assignAll [] (unshadowed template other) := by
    intro other
    show (assignAll [] (other ++ template)).filter _ = _
    rw [filter_assignAll (fun name => name ∉ template.names), List.filter_append]
    have own := unshadowed_self template
    rw [unshadowed] at own
    rw [own, List.append_nil]
    rfl
  rw [merged, merged]
  simp [unshadowed]

theorem get?_merge_unshadowed (name : String) :
    Entries.get? name (merge (unshadowed template runtime) template)
      = Entries.get? name (merge runtime template) := by
  rw [get?_merge, get?_merge, unshadowed, ← List.filter_reverse,
    Entries.get?_filter fun name => name ∉ template.names]
  by_cases own : name ∈ template.names
  · -- the expression of the template is found first
    cases last : Entries.get? name template.reverse with
    | some expression => rfl
    | none => exact absurd own (get?_reverse_eq_none_iff.mp last)
  · rw [if_pos (by simpa using own)]

/-- Both lists are merged to the same declarations, though not in the same order. -/
theorem mem_merge_unshadowed (declaration : String × Value) :
    declaration ∈ merge (unshadowed template runtime) template
      ↔ declaration ∈ merge runtime template := by
  obtain ⟨name, expression⟩ := declaration
  constructor
  · intro member
    have := Entries.get?_of_mem (nodup_names_merge _ _) member
    rw [get?_merge_unshadowed] at this
    exact Entries.mem_of_get? this
  · intro member
    have := Entries.get?_of_mem (nodup_names_merge _ _) member
    rw [← get?_merge_unshadowed] at this
    exact Entries.mem_of_get? this

/-! ### Only places count -/

/-- Where names end up depends on names only. -/
theorem names_assignAll_congr {declarations declarations' more more' : Declarations}
    (h : declarations.names = declarations'.names) (hmore : more.names = more'.names) :
    (assignAll declarations more).names = (assignAll declarations' more').names := by
  induction more generalizing declarations declarations' more' with
  | nil =>
      cases more' with
      | nil => exact h
      | cons _ _ => exact absurd hmore (by simp [names])
  | cons first rest ih =>
      cases more' with
      | nil => exact absurd hmore (by simp [names])
      | cons first' rest' =>
          obtain ⟨same, others⟩ := List.cons.inj hmore
          show (assignAll (assign first.1 first.2 declarations) rest).names
            = (assignAll (assign first'.1 first'.2 declarations') rest').names
          refine ih ?_ others
          rw [← same]
          by_cases declared : first.1 ∈ declarations.names
          · rw [names_assign_of_mem declared, names_assign_of_mem (h ▸ declared), h]
          · rw [names_assign_of_not_mem declared, names_assign_of_not_mem (h ▸ declared), h]

/-- A list that declares no name twice is known by its names and what it has under them. -/
theorem eq_of_names_of_get? {declarations declarations' : Declarations}
    (distinct : declarations.names.Nodup) (h : declarations.names = declarations'.names)
    (found : ∀ name, Entries.get? name declarations = Entries.get? name declarations') :
    declarations = declarations' := by
  induction declarations generalizing declarations' with
  | nil =>
      cases declarations' with
      | nil => rfl
      | cons _ _ => exact absurd h (by simp [names])
  | cons first rest ih =>
      cases declarations' with
      | nil => exact absurd h (by simp [names])
      | cons first' rest' =>
          obtain ⟨name, expression⟩ := first
          obtain ⟨name', expression'⟩ := first'
          obtain ⟨rfl, others⟩ := List.cons.inj h
          obtain ⟨fresh, distinct⟩ := List.nodup_cons.mp distinct
          have head : expression = expression' := by simpa [Entries.get?] using found name
          rw [head, ih distinct others fun other => ?_]
          by_cases same : name = other
          · -- the name is declared once, so neither rest has it
            subst same
            rw [Entries.get?_eq_none_iff.mpr fresh, Entries.get?_eq_none_iff.mpr (others ▸ fresh)]
          · simpa [Entries.get?, same] using found other

/-- The caller's expressions under names of the template are lost, whatever they are. -/
theorem merge_congr {template runtime runtime' : Declarations}
    (same : runtime.names = runtime'.names)
    (beside : unshadowed template runtime = unshadowed template runtime') :
    merge runtime template = merge runtime' template := by
  have names_eq : (merge runtime template).names = (merge runtime' template).names := by
    refine names_assignAll_congr rfl ?_
    rw [names, names, List.map_append, List.map_append]
    exact congrArg (· ++ template.map Prod.fst) same
  refine eq_of_names_of_get? (nodup_names_merge _ _) names_eq fun name => ?_
  rw [← get?_merge_unshadowed, beside, get?_merge_unshadowed]

end Declarations

/-! ## Tables with and without them -/

/-- A template variable that refers only backwards has its value already, so evaluating it again
does nothing, and it can be left out. -/
theorem extend_unshadowed {compiled mode : Mode} {declarations : Declarations}
    {globals : Variables}
    (built : (Variables.extend compiled .empty declarations).result = .ok globals)
    (distinct : declarations.names.Nodup) (backward : declarations.Backward)
    (known : mode = .lenient ∨ mode = compiled) {merged : Declarations}
    (own : ∀ name expression, (name, expression) ∈ merged → name ∈ declarations.names →
      (name, expression) ∈ declarations)
    {table : Variables} (agree : Variables.AgreeOn declarations.names table globals) :
    (Variables.extend mode table merged).result
      = (Variables.extend mode table (declarations.unshadowed merged)).result := by
  induction merged generalizing table with
  | nil => rfl
  | cons declaration rest ih =>
      obtain ⟨name, expression⟩ := declaration
      have ih := @ih fun n e member => own n e (List.mem_cons_of_mem _ member)
      rw [Variables.extend, Run.result_bind]
      by_cases declared : name ∈ declarations.names
      · obtain ⟨value, found, evaluated⟩ := evaluate_of_agree built distinct backward agree
          (own name expression List.mem_cons_self declared)
        have evaluated : (expression.evaluate mode table .null).result = .ok value := by
          rcases known with rfl | rfl
          · exact Value.result_lenient_of_ok evaluated
          · exact evaluated
        have stored : table.get? name = some value := (agree name declared).trans found
        rw [Run.result_locate_eq_ok.mpr evaluated, Except.bind, Dictionary.put_of_get? stored,
          ih agree, Declarations.unshadowed, Declarations.unshadowed,
          List.filter_cons_of_neg (by simpa using declared)]
      · rw [Declarations.unshadowed, List.filter_cons_of_pos (by simpa using declared),
          Variables.extend, Run.result_bind]
        congr 1
        funext value
        refine ih (fun other member => ?_)
        have ne : name ≠ other := fun same => declared (same ▸ member)
        rw [Dictionary.get?_put_of_ne _ ne]
        exact agree other member

/-- Renders that differ only in what the caller declares can be told apart only by their tables. -/
theorem Template.outcome_render_congr {template : Template} {mode : Mode} {request : Request}
    {runtime : Declarations}
    (h : (template.table mode request.declarations).result
      = (template.table mode runtime).result) :
    (template.render mode request).outcome
      = (template.render mode { request with declarations := runtime }).outcome := by
  refine Run.outcome_bind_congr_right _ (fun data => Run.outcome_bind_congr_left ?_ _)
  have silent : ∀ declarations, (template.table mode declarations).Silent :=
    fun _ => Variables.silent_extend
  show (template.table mode request.declarations).outcome = (template.table mode runtime).outcome
  rw [(silent _).outcome, (silent _).outcome, h]

/-! ## Renders with and without them -/

/-- The request without the variables that the template declares too. -/
def Request.unshadowed (request : Request) (template : Template) : Request :=
  { request with declarations := template.declarations.unshadowed request.declarations }

/-- It cannot be seen whether the caller declares variables of the template. -/
def Template.ShadowUnseen (template : Template) (mode : Mode) (request : Request) : Prop :=
  (template.render mode request).outcome
    = (template.render mode (request.unshadowed template)).outcome

theorem Template.shadowUnseen_of_table {template : Template} {mode : Mode} {request : Request}
    (h : (template.table mode request.declarations).result
      = (template.table mode (request.unshadowed template).declarations).result) :
    template.ShadowUnseen mode request :=
  outcome_render_congr h

/-- Renders whose variables differ only in expressions under names of the template are the same. -/
theorem Template.render_congr_runtime (template : Template) (mode : Mode) (request : Request)
    {runtime : Declarations} (same : runtime.names = request.declarations.names)
    (beside : template.declarations.unshadowed runtime
      = template.declarations.unshadowed request.declarations) :
    template.render mode { request with declarations := runtime }
      = template.render mode request := by
  rw [render, render, Declarations.merge_congr same beside]

/--
**A shadowed variable is not seen where its place does not matter.**

What expression the caller gave it never matters. Nor does its place, if the template refers only
backwards and declares no name twice, in lenient mode and in the mode of the compilation. In any
other template its place does not matter as long as a table can be built, as it always can in
lenient mode, and no reference is disturbed: every name that an expression looks up comes before
that expression with the shadowed variables if and only if it does so without them, or has the value
that it had at compilation.
-/
theorem shadowed_variables_unseen {compiled : Mode} {document : Yaml.Node} {template : Template}
    (h : (Template.compile compiled document).result = .ok template) (mode : Mode)
    (request : Request) :
    (∀ runtime : Declarations, runtime.names = request.declarations.names →
      template.declarations.unshadowed runtime
        = template.declarations.unshadowed request.declarations →
      template.render mode { request with declarations := runtime }
        = template.render mode request) ∧
    (template.declarations.names.Nodup →
      (compiled = .strict ∨ template.declarations.Backward) →
      (mode = .lenient ∨ mode = compiled) → template.ShadowUnseen mode request) ∧
    (∀ table,
      (template.table mode request.declarations).result = .ok table ∨
        (template.table mode (request.unshadowed template).declarations).result = .ok table →
      (Declarations.merge request.declarations template.declarations).Undisturbed
        (Declarations.merge (request.unshadowed template).declarations template.declarations)
        template.globals table →
      template.ShadowUnseen mode request) ∧
    (mode = .lenient →
      ∃ table, (template.table mode request.declarations).result = .ok table) := by
  have built := Template.globals_of_compile h
  refine ⟨fun _ => template.render_congr_runtime mode request,
    fun distinct refers known => ?_, fun table builds undisturbed => ?_, ?_⟩
  · have backward : template.declarations.Backward := by
      rcases refers with strict | backward
      · exact backward_of_strict (strict ▸ built)
      · exact backward
    -- the tables of both are that of the declarations beside the template's
    have beside : ∀ runtime, (template.table mode runtime).result
        = (Variables.extend mode template.globals (template.declarations.unshadowed
          (Declarations.merge runtime template.declarations))).result := by
      intro runtime
      exact extend_unshadowed built distinct backward known
        (fun _ _ => Declarations.mem_template_of_mem_merge) fun _ _ => rfl
    refine Template.shadowUnseen_of_table ?_
    rw [beside, beside, Declarations.unshadowed_merge]
    rfl
  · have same := Declarations.mem_merge_unshadowed template.declarations request.declarations
    have distinct := Declarations.nodup_names_merge request.declarations template.declarations
    have distinct' := Declarations.nodup_names_merge
      (template.declarations.unshadowed request.declarations) template.declarations
    refine Template.shadowUnseen_of_table ?_
    rcases builds with builds | builds
    · have builds' := Variables.extend_reorder distinct distinct' same builds undisturbed
      exact builds.trans builds'.symm
    · have builds' := Variables.extend_reorder distinct' distinct (fun d => (same d).symm) builds
        (undisturbed.symm same)
      exact builds'.trans builds.symm
  · rintro rfl
    exact Variables.exists_extend_lenient _ _

/-- A template whose variable refers to one that only the caller can declare. -/
def openDocument : Yaml.Node :=
  .map [
    (.string "root", .string "r"),
    (.string "variables", .map [(.string "A", .string "$${C}"), (.string "B", .string "b")]),
    (.string "elements", .map [(.string "e", .string "$${A}$${B}")])]

def openTemplate : Template where
  root := "r"
  declarations := [("A", .string "$${C}"), ("B", .string "b")]
  globals := (Dictionary.empty.put "A" (.string "$${C}")).put "B" (.string "b")
  elements := [("e", .leaf (.string "$${A}$${B}"))]

theorem compile_openDocument :
    (Template.compile .lenient openDocument).result = .ok openTemplate := by
  with_unfolding_all rfl

/-- The two shadowed variables come after the one that is referred to, in another order than in the
template. -/
def lateShadows : Request where
  declarations := [("C", .string "c"), ("B", .string "x"), ("A", .string "x")]

theorem shadowed_variables_unseen_late :
    (Template.compile .strict movedDocument).result = .ok movedTemplate ∧
    movedTemplate.ShadowUnseen .strict { declarations := movingDeclarations } ∧
    Declarations.merge lateShadows.declarations openTemplate.declarations
      = [("C", .string "c"), ("B", .string "b"), ("A", .string "$${C}")] ∧
    openTemplate.ShadowUnseen .lenient lateShadows := by
  have compiled : (Template.compile .strict movedDocument).result = .ok movedTemplate := by
    with_unfolding_all rfl
  have moved := (shadowed_variables_unseen compiled .strict
    { declarations := movingDeclarations }).2.1 (by decide) (Or.inl rfl) (Or.inr rfl)
  obtain ⟨-, -, late, builds⟩ := shadowed_variables_unseen compile_openDocument .lenient lateShadows
  obtain ⟨table, built⟩ := builds rfl
  refine ⟨compiled, moved, rfl, late table (Or.inl built) ?_⟩
  have merged : Declarations.merge lateShadows.declarations openTemplate.declarations
      = [("C", .string "c"), ("B", .string "b"), ("A", .string "$${C}")] := rfl
  have lookups : ∀ other ∈ (Value.string "$${C}").lookups, other = "C" := by
    have : (Value.string "$${C}").lookups = ["C"] := by with_unfolding_all rfl
    simp [this]
  have none : (Value.string "c").lookups = [] ∧ (Value.string "b").lookups = [] := by
    with_unfolding_all exact ⟨rfl, rfl⟩
  rw [merged]
  intro declaration member other lookedUp
  simp only [List.mem_cons, List.not_mem_nil, or_false] at member
  rcases member with rfl | rfl | rfl
  · simp [none] at lookedUp
  · simp [none] at lookedUp
  · rw [lookups other lookedUp]
    exact Or.inl (by decide)

/-- The shadowed variable comes before the one that is referred to. -/
def earlyShadow : Request where
  declarations := [("A", .string "x"), ("C", .string "c")]

/-- The shadowed variable comes before one that refers to nothing that is declared. -/
def unrelatedShadow : Request where
  declarations := [("A", .string "x"), ("D", .string "$${E}")]

/-- In general a shadowed variable can be seen: in the output, and in strict mode also in which of
two variables the render fails at. -/
theorem exists_shadowed_variable_seen :
    (¬∀ (compiled : Mode) (document : Yaml.Node) (template : Template) (request : Request),
      (Template.compile compiled document).result = .ok template →
      template.ShadowUnseen .lenient request) ∧
    ¬∀ (compiled : Mode) (document : Yaml.Node) (template : Template) (request : Request),
      (Template.compile compiled document).result = .ok template →
      template.ShadowUnseen .strict request := by
  constructor
  · intro unseen
    have seen := unseen .lenient openDocument openTemplate earlyShadow compile_openDocument
    have wrote : (openTemplate.render .lenient earlyShadow).written
        = (openTemplate.render .lenient (earlyShadow.unshadowed openTemplate)).written :=
      congrArg Prod.snd seen
    exact absurd wrote (by decide +kernel)
  · intro unseen
    have seen := unseen .lenient openDocument openTemplate unrelatedShadow compile_openDocument
    have fails : (openTemplate.render .strict unrelatedShadow).result
        = .error ⟨.degraded (.unknownVariable "C"), some "variables.A"⟩ := by
      with_unfolding_all rfl
    have fails' : (openTemplate.render .strict (unrelatedShadow.unshadowed openTemplate)).result
        = .error ⟨.degraded (.unknownVariable "E"), some "variables.D"⟩ := by
      with_unfolding_all rfl
    have ends := (fails.symm.trans (congrArg Prod.fst seen)).trans fails'
    exact absurd ends (by simp)

end XmlTemplate
