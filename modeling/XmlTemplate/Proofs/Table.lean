import XmlTemplate.Proofs.Evaluation

/-!
# How the table of variables is built

A render merges the declarations of the caller with those of the template and evaluates them one
after the other. Merging is said through what stands under a name: the last expression that was
given for it (`get?_merge`), so that of the template if the template has one. Evaluating only ever
touches the names that are declared (`get?_extend_of_not_mem`).
-/

namespace XmlTemplate

/-! ## Entries under a name -/

namespace Entries

variable {α : Type}

theorem get?_append (key : String) (entries more : Entries α) :
    get? key (entries ++ more) = (get? key entries).or (get? key more) := by
  induction entries with
  | nil => rfl
  | cons entry rest ih =>
      obtain ⟨k, value⟩ := entry
      rw [List.cons_append, get?, get?]
      split
      · rfl
      · exact ih

/-- What is found under a key is an entry with that key. -/
theorem mem_of_get? {key : String} {value : α} {entries : Entries α}
    (h : get? key entries = some value) : (key, value) ∈ entries := by
  induction entries with
  | nil => exact absurd h (by simp [get?])
  | cons entry rest ih =>
      obtain ⟨k, old⟩ := entry
      rw [get?] at h
      split at h
      · rename_i same
        cases h
        exact same ▸ List.mem_cons_self
      · exact List.mem_cons_of_mem _ (ih h)

/-- Nothing is found under a key exactly if no entry has it. -/
theorem get?_eq_none_iff {key : String} {entries : Entries α} :
    get? key entries = none ↔ key ∉ entries.map Prod.fst := by
  induction entries with
  | nil => simp [get?]
  | cons entry rest ih =>
      obtain ⟨k, value⟩ := entry
      rw [get?, List.map_cons, List.mem_cons]
      by_cases same : k = key
      · simp [same]
      · rw [if_neg same, ih]
        simp [Ne.symm same]

/-- Where no key occurs twice, every entry is found under its key. -/
theorem get?_of_mem {key : String} {value : α} {entries : Entries α}
    (distinct : (entries.map Prod.fst).Nodup) (h : (key, value) ∈ entries) :
    get? key entries = some value := by
  induction entries with
  | nil => exact absurd h (by simp)
  | cons entry rest ih =>
      obtain ⟨k, old⟩ := entry
      obtain ⟨fresh, distinct⟩ := List.nodup_cons.mp distinct
      rw [get?]
      rcases List.mem_cons.mp h with same | member
      · cases same
        rw [if_pos rfl]
      · have declared : key ∈ rest.map Prod.fst := List.mem_map.mpr ⟨_, member, rfl⟩
        have other : k ≠ key := fun same => fresh (same ▸ declared)
        rw [if_neg other, ih distinct member]

end Entries

/-! ## Merging -/

namespace Declarations

/-- The names that are declared, in order. -/
def names (declarations : Declarations) : List String :=
  declarations.map Prod.fst

theorem get?_assign_self (name : String) (expression : Value) (declarations : Declarations) :
    Entries.get? name (assign name expression declarations) = some expression := by
  induction declarations with
  | nil => rw [assign, Entries.get?, if_pos rfl]
  | cons declaration rest ih =>
      obtain ⟨n, old⟩ := declaration
      rw [assign]
      split
      · rw [Entries.get?, if_pos ‹n = name›]
      · rw [Entries.get?, if_neg ‹¬n = name›, ih]

theorem get?_assign_of_ne {name other : String} (h : name ≠ other) (expression : Value)
    (declarations : Declarations) :
    Entries.get? other (assign name expression declarations) = Entries.get? other declarations := by
  induction declarations with
  | nil => simp [assign, Entries.get?, h]
  | cons declaration rest ih =>
      obtain ⟨n, old⟩ := declaration
      rw [assign]
      split
      · have : n ≠ other := fun same => h (‹n = name› ▸ same)
        rw [Entries.get?, if_neg this, Entries.get?, if_neg this]
      · rw [Entries.get?, Entries.get?, ih]

/-- A name that is declared keeps its place. -/
theorem names_assign_of_mem {name : String} {declarations : Declarations}
    (h : name ∈ declarations.names) (expression : Value) :
    (assign name expression declarations).names = declarations.names := by
  induction declarations with
  | nil => exact absurd h (by simp [names])
  | cons declaration rest ih =>
      obtain ⟨n, old⟩ := declaration
      rw [assign]
      split
      · rfl
      · rcases List.mem_cons.mp h with same | declared
        · exact absurd same.symm ‹¬n = name›
        · exact congrArg (n :: ·) (ih declared)

/-- A new name comes last. -/
theorem names_assign_of_not_mem {name : String} {declarations : Declarations}
    (h : name ∉ declarations.names) (expression : Value) :
    (assign name expression declarations).names = declarations.names ++ [name] := by
  induction declarations with
  | nil => rfl
  | cons declaration rest ih =>
      obtain ⟨n, old⟩ := declaration
      have other : n ≠ name := fun same => h (same ▸ List.mem_cons_self)
      rw [assign, if_neg other]
      exact congrArg (n :: ·) (ih fun declared => h (List.mem_cons_of_mem _ declared))

theorem nodup_names_assign {declarations : Declarations} (h : declarations.names.Nodup)
    (name : String) (expression : Value) :
    (assign name expression declarations).names.Nodup := by
  by_cases declared : name ∈ declarations.names
  · rw [names_assign_of_mem declared]
    exact h
  · rw [names_assign_of_not_mem declared]
    refine List.nodup_append.mpr ⟨h, by simp, ?_⟩
    intro x member y single same
    exact declared (List.mem_singleton.mp single ▸ same ▸ member)

/-- Gives each name its expression, one after the other. -/
def assignAll (declarations more : Declarations) : Declarations :=
  more.foldl (fun merged d => assign d.1 d.2 merged) declarations

theorem nodup_names_assignAll {declarations : Declarations} (h : declarations.names.Nodup)
    (more : Declarations) : (assignAll declarations more).names.Nodup := by
  induction more generalizing declarations with
  | nil => exact h
  | cons declaration rest ih => exact ih (nodup_names_assign h declaration.1 declaration.2)

/-- Under a name stands the last expression that it was given. -/
theorem get?_assignAll (name : String) (declarations more : Declarations) :
    Entries.get? name (assignAll declarations more)
      = (Entries.get? name more.reverse).or (Entries.get? name declarations) := by
  induction more generalizing declarations with
  | nil => rfl
  | cons declaration rest ih =>
      obtain ⟨n, expression⟩ := declaration
      show Entries.get? name (assignAll (assign n expression declarations) rest) = _
      rw [ih, List.reverse_cons, Entries.get?_append, Option.or_assoc]
      congr 1
      by_cases same : n = name
      · subst same
        rw [get?_assign_self, Entries.get?, if_pos rfl, Option.some_or]
      · rw [get?_assign_of_ne same, Entries.get?, if_neg same, Entries.get?, Option.none_or]

/-- The merged list declares no name twice. -/
theorem nodup_names_merge (runtime template : Declarations) :
    (merge runtime template).names.Nodup := by
  show (assignAll [] (runtime ++ template)).names.Nodup
  exact nodup_names_assignAll (by simp [names]) _

/-- The merged list has, under each name, the last expression of the template, or else the last one
of the caller. -/
theorem get?_merge (name : String) (runtime template : Declarations) :
    Entries.get? name (merge runtime template)
      = (Entries.get? name template.reverse).or (Entries.get? name runtime.reverse) := by
  show Entries.get? name (assignAll [] (runtime ++ template)) = _
  rw [get?_assignAll, List.reverse_append, Entries.get?_append, Entries.get?, Option.or_none]

/-- From the end, a name is found just if it is declared. -/
theorem get?_reverse_eq_none_iff {name : String} {declarations : Declarations} :
    Entries.get? name declarations.reverse = none ↔ name ∉ declarations.names := by
  rw [Entries.get?_eq_none_iff, List.map_reverse, List.mem_reverse]
  rfl

/-- What the merged list declares under a name of the template is what the template declares. -/
theorem mem_template_of_mem_merge {runtime template : Declarations} {name : String}
    {expression : Value} (h : (name, expression) ∈ merge runtime template)
    (declared : name ∈ template.names) : (name, expression) ∈ template := by
  have found := Entries.get?_of_mem (nodup_names_merge runtime template) h
  rw [get?_merge] at found
  cases last : Entries.get? name template.reverse with
  | some expression' =>
      rw [last, Option.some_or] at found
      cases found
      exact List.mem_reverse.mp (Entries.mem_of_get? last)
  | none => exact absurd declared (get?_reverse_eq_none_iff.mp last)

end Declarations

/-! ## Evaluating -/

namespace Variables

variable {mode : Mode} {table final : Variables}

/-- Building a table succeeds if the first expression has a value and the rest goes on from it. -/
theorem extend_cons_eq_ok {name : String} {expression : Value} {rest : Declarations} :
    (extend mode table ((name, expression) :: rest)).result = .ok final ↔
      ∃ value, (expression.evaluate mode table .null).result = .ok value
        ∧ (extend mode (table.put name value) rest).result = .ok final := by
  rw [extend]
  constructor
  · intro h
    obtain ⟨value, evaluated, built⟩ := Run.result_bind_eq_ok h
    exact ⟨value, Run.result_locate_eq_ok.mp evaluated, built⟩
  · rintro ⟨value, evaluated, built⟩
    rw [Run.bind_of_ok (Run.result_locate_eq_ok.mpr evaluated)]
    exact built

theorem extend_append_eq_ok {before after : Declarations} :
    (extend mode table (before ++ after)).result = .ok final ↔
      ∃ between, (extend mode table before).result = .ok between
        ∧ (extend mode between after).result = .ok final := by
  induction before generalizing table with
  | nil =>
      constructor
      · intro h
        exact ⟨table, rfl, h⟩
      · rintro ⟨between, start, h⟩
        cases start
        exact h
  | cons declaration rest ih =>
      obtain ⟨name, expression⟩ := declaration
      rw [List.cons_append, extend_cons_eq_ok]
      constructor
      · rintro ⟨value, evaluated, built⟩
        obtain ⟨between, first, second⟩ := ih.mp built
        exact ⟨between, extend_cons_eq_ok.mpr ⟨value, evaluated, first⟩, second⟩
      · rintro ⟨between, first, second⟩
        obtain ⟨value, evaluated, built⟩ := extend_cons_eq_ok.mp first
        exact ⟨value, evaluated, ih.mpr ⟨between, built, second⟩⟩

/-- Nothing is written while a table is built. -/
theorem silent_extend {mode : Mode} {table : Variables} {declarations : Declarations} :
    (extend mode table declarations).Silent :=
  (extend_onlyDegrades mode table declarations).silent

/-- Names that are not declared keep their values. -/
theorem get?_extend_of_not_mem {declarations : Declarations} {name : String}
    (built : (extend mode table declarations).result = .ok final)
    (h : name ∉ declarations.names) : final.get? name = table.get? name := by
  induction declarations generalizing table with
  | nil =>
      cases built
      rfl
  | cons declaration rest ih =>
      obtain ⟨n, expression⟩ := declaration
      obtain ⟨value, _, built⟩ := extend_cons_eq_ok.mp built
      have other : n ≠ name := fun same => h (same ▸ List.mem_cons_self)
      rw [ih built fun member => h (List.mem_cons_of_mem _ member),
        Dictionary.get?_put_of_ne _ other]

end Variables

/-- The table that a render in the given mode builds, for the variables that the caller declares. -/
def Template.table (template : Template) (mode : Mode) (runtime : Declarations) : Run Variables :=
  Variables.extend mode template.globals (Declarations.merge runtime template.declarations)

theorem Template.table_onlyDegrades (template : Template) (mode : Mode) (runtime : Declarations) :
    (template.table mode runtime).OnlyDegrades :=
  Variables.extend_onlyDegrades mode template.globals _

/-- The data that a render goes on with are those of the request. -/
theorem Request.data_of_converted {request : Request} {data : Value}
    (h : (Run.ofExcept (request.data.mapError fun reason =>
      Error.mk (.unconvertibleData reason) none)).result = .ok data) : request.data = .ok data := by
  cases given : request.data with
  | ok value =>
      rw [given] at h
      cases h
      rfl
  | error reason =>
      rw [given] at h
      cases h

end XmlTemplate
