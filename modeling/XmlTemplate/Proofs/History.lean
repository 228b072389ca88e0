import Mathlib.Data.List.Induction
import XmlTemplate.Engine
import XmlTemplate.Proofs.Run

/-!
# What an engine remembers

An engine is asked for one thing after the other, and what it answers depends on all that it was
asked for before. `store_follows_history` says on how much of it: a stored template is that of the
last addition under its name that succeeded, compiled in the mode of that time, unless it has been
removed since; and it is rendered under the settings of the time of the render. Nothing else in the
history counts.

What the history says is told from the list of operations alone (`History.mode`, `History.Holds`).
What one operation does is said by a few lemmas (`settings_next`, `get?_next_of_stores` and those
beside it), and the rest is induction on the history from its end.
-/

namespace XmlTemplate

/-- In the given mode, the source is compiled to the template. -/
def Source.Compiles (source : Source) (mode : Mode) (template : Template) : Prop :=
  ∃ document, source.read? = some document
    ∧ (Template.compile mode document).result = .ok template

theorem Source.Compiles.unique {source : Source} {mode : Mode} {template template' : Template}
    (h : source.Compiles mode template) (h' : source.Compiles mode template') :
    template = template' := by
  obtain ⟨document, read, compiled⟩ := h
  obtain ⟨document', read', compiled'⟩ := h'
  rw [read] at read'
  cases read'
  rw [compiled] at compiled'
  cases compiled'
  rfl

namespace Engine

/-- An engine compiles in its own mode. -/
theorem result_compile_eq_ok {engine : Engine} {source : Source} {template : Template} :
    (engine.compile source).result = .ok template ↔ source.Compiles engine.mode template := by
  rw [compile, Source.Compiles]
  cases source.read? with
  | none => simp [Run.fail]
  | some document => simp

/-! ## Histories -/

/-- What an engine was asked for, in order. -/
abbrev History := List Operation

/-- The mode that the operation sets. -/
def Operation.mode? : Operation → Option Mode
  | .setStrict on => some (if on then .strict else .lenient)
  | _ => none

/-- The limit of depth that the operation sets. -/
def Operation.limit? : Operation → Option Nat
  | .setMaxDepth limit => some limit
  | _ => none

/-- The operation adds a source under the name, and that is compiled to the template. -/
def Operation.Stores (operation : Operation) (mode : Mode) (name : String)
    (template : Template) : Prop :=
  ∃ source, operation = .add name source ∧ source.Compiles mode template

namespace History

/-- The mode in force after the history: the last one that was set. -/
def mode (history : History) : Mode :=
  (history.reverse.findSome? Operation.mode?).getD .lenient

/-- The limit of depth in force after the history: the last one that was set. -/
def maxDepth (history : History) : Option Nat :=
  history.reverse.findSome? Operation.limit?

/-- Behind the history `before`, the operations neither remove a template under the name nor store
one. -/
def Keeps (before : History) (name : String) (later : History) : Prop :=
  ∀ front operation back, later = front ++ operation :: back →
    operation ≠ .remove name ∧
      ∀ template, ¬operation.Stores (mode (before ++ front)) name template

/-- At some place of the history the template was stored under the name, in the mode then in force;
since then nothing was stored under the name or removed. -/
def Holds (history : History) (name : String) (template : Template) : Prop :=
  ∃ before operation later, history = before ++ operation :: later
    ∧ operation.Stores (mode before) name template ∧ Keeps (before ++ [operation]) name later

theorem mode_concat (history : History) (operation : Operation) :
    mode (history ++ [operation]) = operation.mode?.getD history.mode := by
  rw [mode, List.reverse_concat, List.findSome?_cons]
  cases operation.mode? <;> rfl

theorem maxDepth_concat (history : History) (operation : Operation) :
    maxDepth (history ++ [operation]) = operation.limit?.or history.maxDepth := by
  rw [maxDepth, List.reverse_concat, List.findSome?_cons]
  cases operation.limit? <;> rfl

theorem keeps_nil (before : History) (name : String) : Keeps before name [] := by
  intro front operation back split
  exact absurd split (by simp)

theorem keeps_concat {before later : History} {name : String} {last : Operation} :
    Keeps before name (later ++ [last]) ↔ Keeps before name later ∧ last ≠ .remove name
      ∧ ∀ template, ¬last.Stores (mode (before ++ later)) name template := by
  constructor
  · intro h
    refine ⟨fun front operation back split => h front operation (back ++ [last]) ?_,
      h later last [] rfl⟩
    rw [split, List.append_assoc, List.cons_append]
  · rintro ⟨earlier, h⟩ front operation back split
    rcases List.eq_nil_or_concat back with rfl | ⟨back', last', rfl⟩
    · obtain ⟨rfl, same⟩ := List.append_inj' split rfl
      cases same
      exact h
    · rw [List.concat_eq_append, ← List.cons_append, ← List.append_assoc] at split
      exact earlier front operation back' (List.append_inj' split rfl).1

/-- A history with one more operation holds what that stores, or else what it did before. -/
theorem holds_concat {history : History} {last : Operation} {name : String}
    {template : Template} :
    Holds (history ++ [last]) name template ↔ last.Stores history.mode name template ∨
      (last ≠ .remove name ∧ (∀ template', ¬last.Stores history.mode name template')
        ∧ Holds history name template) := by
  constructor
  · rintro ⟨before, operation, later, split, stores, keeps⟩
    rcases List.eq_nil_or_concat later with rfl | ⟨later', last', rfl⟩
    · obtain ⟨rfl, same⟩ := List.append_inj' split rfl
      cases same
      exact .inl stores
    · rw [List.concat_eq_append] at split keeps
      rw [← List.cons_append, ← List.append_assoc] at split
      obtain ⟨rfl, same⟩ := List.append_inj' split rfl
      cases same
      obtain ⟨keeps, notRemoved, notStored⟩ := keeps_concat.mp keeps
      rw [List.append_assoc, List.singleton_append] at notStored
      exact .inr ⟨notRemoved, notStored, before, operation, later', rfl, stores, keeps⟩
  · rintro (stores | ⟨notRemoved, notStored, before, operation, later, rfl, stores, keeps⟩)
    · exact ⟨history, last, [], rfl, stores, keeps_nil _ _⟩
    · refine ⟨before, operation, later ++ [last], by simp, stores, keeps_concat.mpr ⟨keeps, ?_⟩⟩
      rw [List.append_assoc, List.singleton_append]
      exact ⟨notRemoved, notStored⟩

theorem not_holds_nil {name : String} {template : Template} : ¬Holds [] name template := by
  rintro ⟨before, operation, later, split, -⟩
  exact absurd split (by simp)

/-- What is held was never removed after it was stored. -/
theorem Keeps.not_mem_remove {before later : History} {name : String}
    (h : Keeps before name later) : .remove name ∉ later := by
  intro member
  obtain ⟨front, back, split⟩ := List.append_of_mem member
  exact (h front _ back split).1 rfl

end History

/-! ## What one operation does -/

/-- The engine after the operation. -/
def next (engine : Engine) (operation : Operation) : Engine :=
  (engine.perform operation).1

/-- What the engine answers to the operation. -/
def answer (engine : Engine) (operation : Operation) : Answer :=
  (engine.perform operation).2.1

/-- The operation sets nothing and removes nothing; if it adds a source, the answer is an error. -/
def Operation.OnlyLooks (engine : Engine) : Operation → Prop
  | .setStrict _ | .setMaxDepth _ | .remove _ => False
  | .add name source => ∃ e, engine.answer (.add name source) = .failed e
  | .get _ | .compile _ _ | .compileFile _ _ _ | .render _ _ => True

/-- An addition stores the template if the source is compiled, and else leaves the engine as it
is. -/
theorem add_cases (engine : Engine) (name : String) (source : Source) :
    (∃ template, source.Compiles engine.mode template
      ∧ engine.next (.add name source)
        = { engine with templates := engine.templates.put name template }
      ∧ engine.answer (.add name source) = .done) ∨
    ((∀ template, ¬source.Compiles engine.mode template)
      ∧ engine.next (.add name source) = engine
      ∧ ∃ e, engine.answer (.add name source) = .failed e) := by
  cases compiled : (engine.compile source).result with
  | ok template =>
      have added : (engine.add name source).result
          = .ok { engine with templates := engine.templates.put name template } := by
        rw [add, Run.result_bind, compiled]
        rfl
      refine .inl ⟨template, result_compile_eq_ok.mp compiled, ?_, ?_⟩
      · simp only [next, perform, added]
      · simp only [answer, perform, added]
  | error e =>
      have added : (engine.add name source).result = .error e := by
        rw [add, Run.result_bind, compiled]
        rfl
      refine .inr ⟨fun template compiles => ?_, ?_, e, ?_⟩
      · rw [result_compile_eq_ok.mpr compiles] at compiled
        cases compiled
      · simp only [next, perform, added]
      · simp only [answer, perform, added]

theorem next_render (engine : Engine) (name : String) (request : Request) :
    engine.next (.render name request) = engine := by
  rw [next, perform]
  cases engine.get? name <;> rfl

theorem next_of_onlyLooks {engine : Engine} {operation : Operation}
    (h : operation.OnlyLooks engine) : engine.next operation = engine := by
  cases operation with
  | setStrict | setMaxDepth | remove => exact h.elim
  | add name source =>
      obtain ⟨e, failed⟩ := h
      rcases engine.add_cases name source with ⟨_, _, _, done⟩ | ⟨_, same, _⟩
      · rw [done] at failed
        cases failed
      · exact same
  | get | compile | compileFile => rfl
  | render name request => exact next_render engine name request

/-- An operation sets the mode or leaves it as it is, and so with the limit. -/
theorem settings_next (engine : Engine) (operation : Operation) :
    (engine.next operation).mode = operation.mode?.getD engine.mode
      ∧ (engine.next operation).maxDepth = operation.limit?.or engine.maxDepth := by
  cases operation with
  | setStrict | setMaxDepth | remove | get | compile | compileFile => exact ⟨rfl, rfl⟩
  | render name request =>
      rw [next_render]
      exact ⟨rfl, rfl⟩
  | add name source =>
      rcases engine.add_cases name source with ⟨_, _, stored, _⟩ | ⟨_, same, _⟩
      · rw [stored]
        exact ⟨rfl, rfl⟩
      · rw [same]
        exact ⟨rfl, rfl⟩

section Stored

variable {engine : Engine} {operation : Operation} {name : String}

theorem get?_next_of_stores {template : Template}
    (h : operation.Stores engine.mode name template) :
    (engine.next operation).get? name = some template := by
  obtain ⟨source, rfl, compiles⟩ := h
  rcases engine.add_cases name source with ⟨template', compiles', stored, _⟩ | ⟨never, _⟩
  · rw [stored, compiles.unique compiles']
    exact Dictionary.get?_put_self _ _ _
  · exact absurd compiles (never template)

theorem get?_next_remove : (engine.next (.remove name)).get? name = none :=
  Dictionary.get?_erase_self _ _

theorem get?_next_of_keeps (notRemoved : operation ≠ .remove name)
    (notStored : ∀ template, ¬operation.Stores engine.mode name template) :
    (engine.next operation).get? name = engine.get? name := by
  cases operation with
  | setStrict | setMaxDepth | get | compile | compileFile => rfl
  | render other request => rw [next_render]
  | remove other =>
      have ne : other ≠ name := fun same => notRemoved (same ▸ rfl)
      exact Dictionary.get?_erase_of_ne _ ne
  | add other source =>
      rcases engine.add_cases other source with ⟨template, compiles, stored, _⟩ | ⟨_, same, _⟩
      · have ne : other ≠ name := by
          rintro rfl
          exact notStored template ⟨source, rfl, compiles⟩
        rw [stored]
        exact Dictionary.get?_put_of_ne _ ne _
      · rw [same]

/-- Only a removal takes a template away. -/
theorem exists_get?_next (h : ∃ template, engine.get? name = some template)
    (notRemoved : operation ≠ .remove name) :
    ∃ template, (engine.next operation).get? name = some template := by
  by_cases stores : ∃ template, operation.Stores engine.mode name template
  · obtain ⟨template, stores⟩ := stores
    exact ⟨template, get?_next_of_stores stores⟩
  · rw [get?_next_of_keeps notRemoved (not_exists.mp stores)]
    exact h

end Stored

/-! ## What a history does -/

/-- The engine after the operations. -/
def after (engine : Engine) (history : History) : Engine :=
  history.foldl next engine

theorem after_append (engine : Engine) (history later : History) :
    engine.after (history ++ later) = (engine.after history).after later :=
  List.foldl_append

theorem after_concat (engine : Engine) (history : History) (operation : Operation) :
    engine.after (history ++ [operation]) = (engine.after history).next operation :=
  engine.after_append history [operation]

/-- The settings of a new engine are in force as its history says. -/
theorem settings_after (history : History) :
    (after {} history).mode = history.mode ∧ (after {} history).maxDepth = history.maxDepth := by
  induction history using List.reverseRecOn with
  | nil => exact ⟨rfl, rfl⟩
  | append_singleton history last ih =>
      obtain ⟨mode, maxDepth⟩ := settings_next (after {} history) last
      rw [after_concat, mode, maxDepth, ih.1, ih.2, History.mode_concat, History.maxDepth_concat]
      exact ⟨rfl, rfl⟩

/-- **The store of a new engine is what its history holds.** -/
theorem get?_after {history : History} {name : String} {template : Template} :
    (after {} history).get? name = some template ↔ history.Holds name template := by
  induction history using List.reverseRecOn with
  | nil =>
      refine iff_of_false (fun found => ?_) History.not_holds_nil
      cases found
  | append_singleton history last ih =>
      rw [after_concat, History.holds_concat]
      have mode := (settings_after history).1
      by_cases stores : ∃ stored, last.Stores (History.mode history) name stored
      · -- what the last operation stores is found, and nothing else is held
        obtain ⟨stored, stores⟩ := stores
        rw [get?_next_of_stores (mode ▸ stores)]
        constructor
        · rintro ⟨⟩
          exact .inl stores
        · rintro (stores' | ⟨_, never, _⟩)
          · obtain ⟨source, rfl, compiles⟩ := stores
            obtain ⟨_, same, compiles'⟩ := stores'
            cases same
            rw [compiles.unique compiles']
          · exact absurd stores (never stored)
      · have never := not_exists.mp stores
        by_cases removed : last = .remove name
        · rw [removed, get?_next_remove]
          constructor
          · rintro ⟨⟩
          · rintro (⟨_, add, _⟩ | ⟨kept, _⟩)
            · cases add
            · exact absurd rfl kept
        · rw [get?_next_of_keeps removed (mode ▸ never), ih]
          constructor
          · exact fun holds => .inr ⟨removed, never, holds⟩
          · rintro (stored | ⟨_, _, holds⟩)
            · exact absurd stored (never template)
            · exact holds

theorem exists_get?_after {engine : Engine} {name : String} {later : History}
    (h : ∃ template, engine.get? name = some template) (kept : .remove name ∉ later) :
    ∃ template, (engine.after later).get? name = some template := by
  induction later generalizing engine with
  | nil => exact h
  | cons operation rest ih =>
      refine ih (exists_get?_next h fun same => kept ?_)
        fun member => kept (List.mem_cons_of_mem _ member)
      rw [same]
      exact List.mem_cons_self

/-- Something is stored after the history exactly if something was stored in it and the name was not
removed since. -/
theorem exists_get?_after_iff {history : History} {name : String} :
    (∃ template, (after {} history).get? name = some template) ↔
      ∃ before operation later template, history = before ++ operation :: later
        ∧ operation.Stores (History.mode before) name template ∧ .remove name ∉ later := by
  constructor
  · rintro ⟨template, found⟩
    obtain ⟨before, operation, later, split, stores, keeps⟩ := get?_after.mp found
    exact ⟨before, operation, later, template, split, stores, keeps.not_mem_remove⟩
  · rintro ⟨before, operation, later, template, rfl, stores, kept⟩
    have stored : ((after {} before).next operation).get? name = some template :=
      get?_next_of_stores ((settings_after before).1 ▸ stores)
    have last := exists_get?_after ⟨template, stored⟩ kept
    rw [after_append]
    exact last

/-- An addition succeeds if its source is compiled. -/
theorem answer_add_eq_done_iff {engine : Engine} {name : String} {source : Source} :
    engine.answer (.add name source) = .done ↔
      ∃ template, source.Compiles engine.mode template := by
  rcases engine.add_cases name source with ⟨template, compiles, _, done⟩ | ⟨never, _, e, failed⟩
  · exact iff_of_true done ⟨template, compiles⟩
  · rw [failed]
    exact iff_of_false (by simp) (not_exists.mpr never)

/-- A template is rendered under the settings of the engine, the request's own limit first. -/
theorem answer_render {engine : Engine} {name : String} {template : Template}
    (stored : engine.get? name = some template) (request : Request) :
    engine.answer (.render name request) = .rendered (template.render engine.mode
      { request with maxDepth := request.maxDepth.or engine.maxDepth }) := by
  rw [answer, perform, stored]
  dsimp only
  rw [render]

/--
**The store of an engine follows its history.**

Let a new engine have gone through any operations. It finds a template under a name exactly if some
addition under that name succeeded and no removal of the name came later. The template is then that
of the last addition that succeeded, compiled in the mode in force at that time; an addition
succeeds if its source is compiled. What only looks at the engine, additions that fail among it,
changes nothing. And a stored template is rendered in the mode of the time of the render and under
the limit of that time, unless the request has one of its own.
-/
theorem store_follows_history (history : History) (name : String) :
    let engine := after {} history
    ((∃ template, engine.answer (.get name) = .found (some template)) ↔
      ∃ before operation later template, history = before ++ operation :: later
        ∧ operation.Stores (History.mode before) name template ∧ .remove name ∉ later) ∧
    (∀ template, engine.answer (.get name) = .found (some template) ↔
      history.Holds name template) ∧
    (∀ source, engine.answer (.add name source) = .done ↔
      ∃ template, source.Compiles history.mode template) ∧
    (∀ operation : Operation, operation.OnlyLooks engine → engine.next operation = engine) ∧
    (engine.mode = history.mode ∧ engine.maxDepth = history.maxDepth) ∧
    ∀ template request, history.Holds name template →
      engine.answer (.render name request) = .rendered (template.render history.mode
        { request with maxDepth := request.maxDepth.or history.maxDepth }) := by
  intro engine
  have settings : engine.mode = history.mode ∧ engine.maxDepth = history.maxDepth :=
    settings_after history
  have answered (template : Template) : engine.answer (.get name) = .found (some template) ↔
      engine.get? name = some template :=
    Answer.found.injEq _ _ ▸ Iff.rfl
  refine ⟨?_, fun template => (answered template).trans get?_after, fun source => ?_,
    fun _ => next_of_onlyLooks, settings, fun template request holds => ?_⟩
  · simp only [answered]
    exact exists_get?_after_iff
  · rw [← settings.1]
    exact answer_add_eq_done_iff
  · rw [← settings.1, ← settings.2]
    exact answer_render (get?_after.mpr holds) request

/-- A document whose root has the empty name, which only lenient mode takes. -/
def namelessDocument : Yaml.Node :=
  .map [(.string "root", .string ""), (.string "elements", .null)]

def namelessTemplate : Template where
  root := ""
  declarations := []
  globals := .empty
  elements := []

/-- The document is refused in strict mode, then stored in lenient mode, and what is no document at
all does not take its place. -/
def busyHistory : History := [
  .setStrict true, .add "t" (.document namelessDocument),
  .setStrict false, .add "t" (.document namelessDocument), .add "t" (.document .null),
  .add "u" (.document namelessDocument), .remove "u",
  .setMaxDepth 3, .render "t" {}, .setStrict true]

theorem store_follows_history_busy :
    let engine := after {} busyHistory
    engine.answer (.get "t") = .found (some namelessTemplate)
      ∧ History.Holds busyHistory "t" namelessTemplate
      ∧ (Operation.add "t" (.document namelessDocument)).OnlyLooks engine
      ∧ engine.next (.add "t" (.document namelessDocument)) = engine
      ∧ (∀ template, ¬History.Holds busyHistory "u" template)
      ∧ engine.answer (.render "t" {})
        = .rendered (namelessTemplate.render .strict { maxDepth := some 3 }) := by
  intro engine
  obtain ⟨-, found, -, looks, -, rendered⟩ := store_follows_history busyHistory "t"
  obtain ⟨-, foundOther, -⟩ := store_follows_history busyHistory "u"
  have stored : engine.answer (.get "t") = .found (some namelessTemplate) := rfl
  have removed : engine.answer (.get "u") = .found none := rfl
  have refused : (Operation.add "t" (.document namelessDocument)).OnlyLooks engine :=
    ⟨⟨.invalidName "", none⟩, rfl⟩
  have holds := (found _).mp stored
  refine ⟨stored, holds, refused, looks _ refused, fun template held => ?_, rendered _ {} holds⟩
  have still := (foundOther template).mpr held
  rw [removed] at still
  cases still

end Engine

end XmlTemplate
