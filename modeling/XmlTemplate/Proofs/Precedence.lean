import Mathlib.Data.List.Induction
import XmlTemplate.Proofs.Shadow
import XmlTemplate.Proofs.Writing

/-!
# Which declaration counts

Merging goes through the declarations of the caller and then through those of the template, and
every one that comes up assigns its expression to its name. So a name stands where it is first
declared, with the expression of its last declaration (`merge_last_in_first_place`). Both are told
from the lists alone: places by `List.eraseDups`, which keeps the first of equal names, and
expressions by `Declarations.IsLast`.
-/

namespace XmlTemplate

namespace Declarations

@[simp]
theorem names_append (declarations more : Declarations) :
    names (declarations ++ more) = declarations.names ++ more.names :=
  List.map_append

theorem assignAll_append (declarations front back : Declarations) :
    assignAll declarations (front ++ back) = assignAll (assignAll declarations front) back :=
  List.foldl_append

/-! ## Places -/

/-- What is assigned from nothing has each name where it first came up. -/
theorem names_assignAll_nil (declarations : Declarations) :
    (assignAll [] declarations).names = declarations.names.eraseDups := by
  induction declarations using List.reverseRecOn with
  | nil => rfl
  | append_singleton front last ih =>
      obtain ⟨name, expression⟩ := last
      have declared : name ∈ (assignAll [] front).names ↔ name ∈ names front := by
        rw [ih, List.mem_eraseDups]
      rw [assignAll_append, names_append, List.eraseDups_append]
      show (assign name expression (assignAll [] front)).names = _
      by_cases again : name ∈ names front
      · have none : List.removeAll (names [(name, expression)]) (names front) = [] := by
          simpa [List.removeAll, names] using again
        rw [names_assign_of_mem (declared.mpr again), none, ih, List.eraseDups_nil,
          List.append_nil]
      · have one : List.removeAll (names [(name, expression)]) (names front) = [name] := by
          simpa [List.removeAll, names] using again
        rw [names_assign_of_not_mem (declared.not.mpr again), one, ih]
        rfl

theorem names_merge (runtime template : Declarations) :
    (merge runtime template).names = (runtime.names ++ template.names).eraseDups := by
  rw [← names_append]
  exact names_assignAll_nil (runtime ++ template)

/-- Names that are declared stay where they are. -/
theorem names_assignAll_of_subset {declarations more : Declarations}
    (h : ∀ name ∈ more.names, name ∈ declarations.names) :
    (assignAll declarations more).names = declarations.names := by
  induction more generalizing declarations with
  | nil => rfl
  | cons first rest ih =>
      have kept := names_assign_of_mem (h first.1 List.mem_cons_self) first.2
      have later : ∀ name ∈ names rest, name ∈ (assign first.1 first.2 declarations).names := by
        intro name declared
        rw [kept]
        exact h name (List.mem_cons_of_mem _ declared)
      exact (ih later).trans kept

/-! ## Lists apart -/

/-- Where a name is not declared in front, it is assigned behind. -/
theorem assign_append {name : String} {front : Declarations} (h : name ∉ front.names)
    (expression : Value) (back : Declarations) :
    assign name expression (front ++ back) = front ++ assign name expression back := by
  induction front with
  | nil => rfl
  | cons first rest ih =>
      obtain ⟨n, old⟩ := first
      have other : n ≠ name := fun same => h (same ▸ List.mem_cons_self)
      rw [List.cons_append, assign, if_neg other,
        ih fun member => h (List.mem_cons_of_mem _ member)]
      rfl

theorem assignAll_behind {front more : Declarations}
    (apart : ∀ name ∈ more.names, name ∉ front.names) (back : Declarations) :
    assignAll (front ++ back) more = front ++ assignAll back more := by
  induction more generalizing back with
  | nil => rfl
  | cons first rest ih =>
      show assignAll (assign first.1 first.2 (front ++ back)) rest = _
      rw [assign_append (apart first.1 List.mem_cons_self),
        ih fun name member => apart name (List.mem_cons_of_mem _ member)]
      rfl

/-- A list that declares no name twice is what assigning it from nothing gives. -/
theorem assignAll_nil_of_nodup {declarations : Declarations} (distinct : declarations.names.Nodup) :
    assignAll [] declarations = declarations := by
  induction declarations with
  | nil => rfl
  | cons first rest ih =>
      obtain ⟨fresh, distinct⟩ := List.nodup_cons.mp distinct
      have apart : ∀ name ∈ names rest, name ∉ names [first] := by
        intro name declared single
        rw [List.mem_singleton.mp single] at declared
        exact fresh declared
      have behind := assignAll_behind apart []
      rw [List.append_nil, ih distinct] at behind
      exact behind

/-! ## Expressions -/

/-- The declaration is the last one of its name in the list. -/
def IsLast (declaration : String × Value) (declarations : Declarations) : Prop :=
  ∃ front back, declarations = front ++ declaration :: back ∧ declaration.1 ∉ names back

/-- What is found from the end is the last declaration. -/
theorem get?_reverse_eq_some_iff {name : String} {expression : Value}
    {declarations : Declarations} :
    Entries.get? name declarations.reverse = some expression
      ↔ IsLast (name, expression) declarations := by
  constructor
  · intro found
    induction declarations using List.reverseRecOn with
    | nil => cases found
    | append_singleton front last ih =>
        obtain ⟨n, e⟩ := last
        rw [List.reverse_append, List.reverse_singleton, List.singleton_append, Entries.get?]
          at found
        split at found
        · subst ‹n = name›
          cases found
          exact ⟨front, [], rfl, by simp [names]⟩
        · obtain ⟨before, back, rfl, last⟩ := ih found
          refine ⟨before, back ++ [(n, e)], by simp, ?_⟩
          rw [names_append, List.mem_append]
          rintro (again | again)
          · exact last again
          · exact ‹¬n = name› (List.mem_singleton.mp again).symm
  · rintro ⟨front, back, rfl, last⟩
    rw [List.reverse_append, List.reverse_cons, List.append_assoc, Entries.get?_append,
      get?_reverse_eq_none_iff.mpr last, Option.none_or, List.singleton_append, Entries.get?, if_pos rfl]

theorem get?_eq_some_iff_mem {declarations : Declarations} (distinct : declarations.names.Nodup)
    {name : String} {expression : Value} :
    Entries.get? name declarations = some expression ↔ (name, expression) ∈ declarations :=
  ⟨Entries.mem_of_get?, Entries.get?_of_mem distinct⟩

/-- A name is merged with the expression of its last declaration. -/
theorem mem_merge_iff {runtime template : Declarations} {name : String} {expression : Value} :
    (name, expression) ∈ merge runtime template
      ↔ IsLast (name, expression) (runtime ++ template) := by
  rw [← get?_eq_some_iff_mem (nodup_names_merge runtime template), ← get?_reverse_eq_some_iff,
    get?_merge, List.reverse_append, Entries.get?_append]

/-- If the template declares the name, that is its last declaration in the template. -/
theorem isLast_template {runtime template : Declarations} {name : String} {expression : Value}
    (h : (name, expression) ∈ merge runtime template) (declared : name ∈ template.names) :
    IsLast (name, expression) template := by
  rw [← get?_eq_some_iff_mem (nodup_names_merge runtime template), get?_merge] at h
  rw [← get?_reverse_eq_some_iff]
  cases found : Entries.get? name template.reverse with
  | some last => rwa [found, Option.some_or] at h
  | none => exact absurd declared (get?_reverse_eq_none_iff.mp found)

/-- What has been merged with the template has nothing more to get from it. -/
theorem merge_merge (runtime template : Declarations) :
    merge (merge runtime template) template = merge runtime template := by
  have distinct := nodup_names_merge runtime template
  have merged : merge (merge runtime template) template
      = assignAll (merge runtime template) template := by
    show assignAll [] (merge runtime template ++ template) = _
    rw [assignAll_append, assignAll_nil_of_nodup distinct]
  have declared : ∀ name ∈ template.names, name ∈ (merge runtime template).names := by
    intro name member
    rw [names_merge, List.mem_eraseDups]
    exact List.mem_append_right _ member
  refine (eq_of_names_of_get? distinct ?_ fun name => ?_).symm
  · rw [merged, names_assignAll_of_subset declared]
  · rw [merged, get?_assignAll, get?_merge, ← Option.or_assoc, Option.or_self]

end Declarations

/-! ## The names in the table -/

namespace Dictionary

variable {α : Type}

theorem mem_keys_iff {d : Dictionary α} {key : String} : key ∈ d.keys ↔ d.get? key ≠ none := by
  rw [get?, ne_eq, Entries.get?_eq_none_iff, not_not]
  rfl

theorem mem_keys_put {d : Dictionary α} {key other : String} {value : α} :
    other ∈ (d.put key value).keys ↔ other = key ∨ other ∈ d.keys := by
  rw [mem_keys_iff, mem_keys_iff]
  by_cases same : key = other
  · subst same
    simp
  · simp [get?_put_of_ne d same, Ne.symm same]

end Dictionary

/-- Evaluating declarations adds their names to the table, and no others. -/
theorem Variables.mem_keys_extend {mode : Mode} {table final : Variables}
    {declarations : Declarations} (built : (extend mode table declarations).result = .ok final)
    {name : String} : name ∈ final.keys ↔ name ∈ table.keys ∨ name ∈ declarations.names := by
  induction declarations generalizing table with
  | nil =>
      cases built
      simp [Declarations.names]
  | cons declaration rest ih =>
      obtain ⟨n, expression⟩ := declaration
      obtain ⟨value, -, built⟩ := extend_cons_eq_ok.mp built
      rw [ih built, Dictionary.mem_keys_put, or_assoc, or_left_comm]
      exact or_congr_right List.mem_cons.symm

/-- The table of a render has the names of the merged declarations, each once. -/
theorem Template.keys_table {compiled mode : Mode} {document : Yaml.Node} {template : Template}
    {runtime : Declarations} {table : Variables}
    (h : (Template.compile compiled document).result = .ok template)
    (built : (template.table mode runtime).result = .ok table) :
    table.keys.Perm (Declarations.merge runtime template.declarations).names := by
  have distinct : table.keys.Nodup := table.ascending.nodup
  refine (List.perm_ext_iff_of_nodup distinct (Declarations.nodup_names_merge _ _)).mpr ?_
  intro name
  rw [Variables.mem_keys_extend built, or_iff_right_of_imp]
  -- what the compilation has put into the table is declared in the template
  intro stored
  have declared : name ∈ template.declarations.names :=
    mem_names_of_get?_extend (globals_of_compile h) (Dictionary.mem_keys_iff.mp stored)
  rw [Declarations.names_merge, List.mem_eraseDups]
  exact List.mem_append_right _ declared

/--
**The last declaration counts, in the place of the first.**

The declarations of a caller and of a template are merged to a list without repeated names. These
are the declared names in the order in which they first come up, and each has the expression of its
last declaration, which is one of the template if the template declares it. Merging with the
template again changes nothing. A table that is built of the merged declarations, in whatever mode,
has just their names.
-/
theorem merge_last_in_first_place (runtime template : Declarations) :
    (Declarations.merge runtime template).names.Nodup ∧
    (Declarations.merge runtime template).names = (runtime.names ++ template.names).eraseDups ∧
    (∀ name expression, (name, expression) ∈ Declarations.merge runtime template ↔
      Declarations.IsLast (name, expression) (runtime ++ template)) ∧
    (∀ name expression, (name, expression) ∈ Declarations.merge runtime template →
      name ∈ template.names → Declarations.IsLast (name, expression) template) ∧
    Declarations.merge (Declarations.merge runtime template) template
      = Declarations.merge runtime template ∧
    ∀ (compiled mode : Mode) (document : Yaml.Node) (t : Template) (table : Variables),
      (Template.compile compiled document).result = .ok t → t.declarations = template →
      (t.table mode runtime).result = .ok table →
      table.keys.Perm (Declarations.merge runtime template).names := by
  refine ⟨Declarations.nodup_names_merge _ _, Declarations.names_merge _ _,
    fun _ _ => Declarations.mem_merge_iff, fun _ _ => Declarations.isLast_template,
    Declarations.merge_merge _ _, ?_⟩
  rintro compiled mode document t table h rfl built
  exact Template.keys_table h built

/-- Variables that are declared twice, one of them under a name of the template. -/
def repeatedDeclarations : Declarations :=
  [("B", .string "z"), ("C", .string "$${A}"), ("B", .string "v"), ("C", .string "$${B}w")]

theorem merge_last_in_first_place_repeated :
    (Template.compile .strict movedDocument).result = .ok movedTemplate ∧
    Declarations.merge repeatedDeclarations movedTemplate.declarations
      = [("B", .string "$${A}y"), ("C", .string "$${B}w"), ("A", .string "x")] ∧
    Declarations.IsLast ("B", .string "$${A}y") movedTemplate.declarations ∧
    ∃ table, (movedTemplate.table .strict repeatedDeclarations).result = .ok table
      ∧ table.keys.Perm ["B", "C", "A"] := by
  have compiled : (Template.compile .strict movedDocument).result = .ok movedTemplate := by
    with_unfolding_all rfl
  have merged : Declarations.merge repeatedDeclarations movedTemplate.declarations
      = [("B", .string "$${A}y"), ("C", .string "$${B}w"), ("A", .string "x")] := rfl
  have builds : (movedTemplate.table .strict repeatedDeclarations).result.isOk = true := by
    decide +kernel
  obtain ⟨-, -, -, last, -, keys⟩ :=
    merge_last_in_first_place repeatedDeclarations movedTemplate.declarations
  have member : ("B", Value.string "$${A}y")
      ∈ Declarations.merge repeatedDeclarations movedTemplate.declarations := by
    rw [merged]
    exact List.mem_cons_self
  cases built : (movedTemplate.table .strict repeatedDeclarations).result with
  | error e => rw [built] at builds; cases builds
  | ok table =>
      exact ⟨compiled, merged, last _ _ member (by decide), table, rfl,
        keys _ _ _ _ _ compiled rfl built⟩

end XmlTemplate
