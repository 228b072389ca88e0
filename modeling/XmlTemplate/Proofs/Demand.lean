import XmlTemplate.Proofs.Lookup
import XmlTemplate.Proofs.Document
import XmlTemplate.Proofs.Classification

/-!
# What strict mode demands of a document

Strict mode compiles what lenient mode compiles, and to the same template, if the template meets two
demands: its names are XML names, and its variables have strict values (`compile_strict_iff`). Names
are checked all along the way, so this goes through every function of the compiler: each gives in
strict mode what it gives in lenient mode, if the names in that are XML names. How two such
runs are put together from their parts is said once (`Run.Demanding`).
-/

namespace XmlTemplate

open Yaml (Node)

/-! ## The demands -/

/-- The text is a name in strict mode. -/
def Xml.IsName (name : String) : Prop :=
  isName name.toList = true

/-- Every expression has a value, under the variables before it and without data. -/
def Declarations.Evaluates (mode : Mode) (declarations : Declarations) : Prop :=
  ∀ (before after : Declarations) (name : String) (expression : Value),
    declarations = before ++ (name, expression) :: after →
    ∃ table value, (Variables.extend mode .empty before).result = .ok table
      ∧ (expression.evaluate mode table .null).result = .ok value

theorem Declarations.evaluates_iff {mode : Mode} {declarations : Declarations} :
    declarations.Evaluates mode ↔
      ∃ table, (Variables.extend mode .empty declarations).result = .ok table := by
  constructor
  · intro evaluates
    rcases List.eq_nil_or_concat declarations with rfl | ⟨before, ⟨name, expression⟩, rfl⟩
    · exact ⟨.empty, rfl⟩
    · -- with the last one the table is complete
      obtain ⟨table, value, built, evaluated⟩ :=
        evaluates before [] name expression List.concat_eq_append
      refine ⟨table.put name value, ?_⟩
      rw [List.concat_eq_append]
      refine Variables.extend_append_eq_ok.mpr ⟨table, built, ?_⟩
      exact Variables.extend_cons_eq_ok.mpr ⟨value, evaluated, rfl⟩
  · rintro ⟨final, built⟩ before after name expression rfl
    obtain ⟨table, first, second⟩ := Variables.extend_append_eq_ok.mp built
    obtain ⟨value, evaluated, _⟩ := Variables.extend_cons_eq_ok.mp second
    exact ⟨table, value, first, evaluated⟩

/-- A table that strict mode builds is the one that lenient mode builds. -/
theorem Variables.result_lenient_of_ok {table final : Variables} {declarations : Declarations}
    (built : (extend .strict table declarations).result = .ok final) :
    (extend .lenient table declarations).result = .ok final := by
  rw [Variables.extend_strict] at built
  rwa [Run.strictly, Run.stopAt_eq_self built] at built

/-! ## Runs with a demand -/

/-- The first run gives what the second one gives if that meets a demand, and nothing else. -/
def Run.Demanding {α : Type} (P : α → Prop) (run run' : Run α) : Prop :=
  ∀ a, run.result = .ok a ↔ run'.result = .ok a ∧ P a

namespace Run.Demanding

variable {α β γ : Type} {P : α → Prop} {Q : β → Prop} {R : γ → Prop} {run run' : Run α}

/-- A run may demand what all its results meet. -/
theorem of_all (h : ∀ a, run.result = .ok a → P a) : Demanding P run run :=
  fun a => iff_self_and.mpr (h a)

theorem of_pure {a : α} (meets : P a) : Demanding P (pure a) (pure a) :=
  of_all fun _ given => Except.ok.inj given ▸ meets

theorem of_fail (e : Error) : Demanding P (Run.fail e) (Run.fail e) :=
  of_all fun _ given => nomatch given

/-- What is demanded of the whole is demanded of its first part too. -/
theorem bind {next next' : α → Run β} (first : Demanding P run run')
    (second : ∀ a, P a → Demanding Q (next a) (next' a))
    (demanded : ∀ a b, (next' a).result = .ok b → Q b → P a) :
    Demanding Q (run >>= next) (run' >>= next') := by
  intro b
  rw [result_bind_eq_ok_iff, result_bind_eq_ok_iff]
  constructor
  · rintro ⟨a, given, more⟩
    obtain ⟨given', meets⟩ := (first a).mp given
    obtain ⟨more', meets'⟩ := (second a meets b).mp more
    exact ⟨⟨a, given', more'⟩, meets'⟩
  · rintro ⟨⟨a, given', more'⟩, meets'⟩
    have meets : P a := demanded a b more' meets'
    exact ⟨a, (first a).mpr ⟨given', meets⟩, (second a meets b).mpr ⟨more', meets'⟩⟩

theorem map {f : α → β} (h : Demanding P run run') (same : ∀ a, Q (f a) ↔ P a) :
    Demanding Q (run >>= fun a => pure (f a)) (run' >>= fun a => pure (f a)) := by
  refine h.bind (fun a meets => of_pure ((same a).mpr meets)) fun a b given meets => ?_
  cases given
  exact (same a).mp meets

/-- Of a result that is put together from two, both parts are demanded. -/
theorem map₂ {next next' : Run β} {f : α → β → γ} (first : Demanding P run run')
    (second : Demanding Q next next') (same : ∀ a b, R (f a b) ↔ P a ∧ Q b) :
    Demanding R (run >>= fun a => next >>= fun b => pure (f a b))
      (run' >>= fun a => next' >>= fun b => pure (f a b)) := by
  refine first.bind (fun a meets => second.map fun b => ?_) fun a c given meets => ?_
  · rw [same, and_iff_right meets]
  · obtain ⟨b, _, given⟩ := Run.result_bind_eq_ok given
    cases given
    exact ((same a b).mp meets).1

end Run.Demanding

/-! ## Strict and lenient compilation -/

namespace Template

theorem checkName_lenient (name path : String) : checkName .lenient name path = pure () :=
  checkName_of_named (fun strict => by cases strict) path

section Strict

variable {path : String}

theorem demanding_checkName (name place : String) : Run.Demanding (fun _ => Xml.IsName name)
    (checkName .strict name place) (checkName .lenient name place) := by
  intro checked
  rw [checkName_lenient, checkName, Xml.IsName]
  cases Xml.isName name.toList <;> simp [Run.fail]

/-- The attributes have names. -/
def AttributesNamed (attributes : List Attribute) : Prop :=
  ∀ a ∈ attributes, Xml.IsName a.name

theorem demanding_compileAttribute (node : Node) :
    Run.Demanding (fun attribute? => AttributesNamed attribute?.toList)
      (compileAttribute .strict path node) (compileAttribute .lenient path node) := by
  have skipped (fault : AttributeFault) :
      Run.Demanding (fun attribute? => AttributesNamed attribute?.toList)
        (Run.emit (.skippedAttribute fault path) >>= fun _ => pure none)
        (Run.emit (.skippedAttribute fault path) >>= fun _ => pure none) :=
    .of_all fun _ given => by
      cases given
      exact fun a member => absurd member (by simp)
  rw [compileAttribute, compileAttribute]
  split
  · split
    · exact skipped .unnamed
    · refine (demanding_checkName _ path).map fun _ => ?_
      simp [AttributesNamed]
  · exact skipped .notMapping

theorem demanding_compileAttributes (nodes : List Node) :
    Run.Demanding AttributesNamed (compileAttributes .strict path nodes)
      (compileAttributes .lenient path nodes) := by
  induction nodes with
  | nil => exact .of_pure (by simp [AttributesNamed])
  | cons node rest ih =>
      exact (demanding_compileAttribute node).map₂ ih fun _ _ => List.forall_mem_append

theorem demanding_compileAttributeSections (entries : List (Node × Node)) :
    Run.Demanding AttributesNamed (compileAttributeSections .strict path entries)
      (compileAttributeSections .lenient path entries) := by
  induction entries with
  | nil => exact .of_pure (by simp [AttributesNamed])
  | cons entry rest ih =>
      obtain ⟨key, value⟩ := entry
      rw [compileAttributeSections, compileAttributeSections]
      split
      · exact (demanding_compileAttributes _).map₂ ih fun _ _ => List.forall_mem_append
      · simp only [pure_bind, List.nil_append, bind_pure]
        exact ih

theorem demanding_compileAttributed (entries : List (Node × Node)) :
    Run.Demanding (Element.EveryName Xml.IsName) (compileAttributed .strict path entries)
      (compileAttributed .lenient path entries) :=
  (demanding_compileAttributeSections entries).map fun _ => Iff.rfl

mutual

/-- **Strict mode gives the elements that lenient mode gives, if their names are XML names.** -/
theorem demanding_compileContent {path : String} : ∀ entries : List (Node × Node),
    Run.Demanding (Content.EveryName Xml.IsName) (compileContent .strict path entries)
      (compileContent .lenient path entries)
  | [] => .of_pure trivial
  | (key, node) :: rest => by
      rw [compileContent, compileContent]
      refine (demanding_checkName _ _).bind ?_ ?_
      · -- the name is known to be one, so only the rest is demanded
        intro _ named
        refine (demanding_compileElement node).map₂ (demanding_compileContent rest) ?_
        intro element content
        exact and_iff_right named
      · intro _ content given named
        obtain ⟨_, _, given⟩ := Run.result_bind_eq_ok given
        obtain ⟨_, _, given⟩ := Run.result_bind_eq_ok given
        cases given
        exact named.1

theorem demanding_compileElement {path : String} : ∀ node : Node,
    Run.Demanding (Element.EveryName Xml.IsName) (compileElement .strict path node)
      (compileElement .lenient path node)
  | .tagged _ node => by
      rw [compileElement, compileElement]
      exact demanding_compileElement node
  | .seq items => by
      rw [compileElement, compileElement]
      exact (demanding_compileEntries items).map fun _ => Iff.rfl
  | .map entries => by
      rw [compileElement, compileElement]
      split
      · exact demanding_compileAttributed entries
      · exact (demanding_compileContent entries).map fun _ => Iff.rfl
  | .null | .bool _ | .int _ | .float _ | .string _ => by
      rw [compileElement, compileElement]
      exact .of_pure trivial

theorem demanding_compileEntries {path : String} : ∀ items : List Node,
    Run.Demanding (Content.EveryNames Xml.IsName) (compileEntries .strict path items)
      (compileEntries .lenient path items)
  | [] => .of_pure trivial
  | item :: rest => by
      rw [compileEntries, compileEntries]
      exact (demanding_compileEntry item).map₂ (demanding_compileEntries rest) fun _ _ => Iff.rfl

theorem demanding_compileEntry {path : String} : ∀ item : Node,
    Run.Demanding (Content.EveryName Xml.IsName) (compileEntry .strict path item)
      (compileEntry .lenient path item)
  | .tagged _ node => by
      rw [compileEntry, compileEntry]
      exact demanding_compileEntry node
  | .map entries => by
      rw [compileEntry, compileEntry]
      exact demanding_compileContent entries
  | .null | .bool _ | .int _ | .float _ | .string _ | .seq _ => .of_fail _

end

theorem demanding_compileElements (entries : List (Node × Node)) :
    Run.Demanding (Content.EveryName Xml.IsName) (compileElements .strict entries)
      (compileElements .lenient entries) := by
  rw [compileElements, compileElements]
  split
  · exact .of_fail _
  · exact .of_pure trivial
  · exact demanding_compileContent _
  · exact .of_fail _

/-- The table is built in strict mode as in lenient mode, if the variables have strict values. -/
theorem demanding_extend (declarations : Declarations) :
    Run.Demanding (fun _ => declarations.Evaluates .strict)
      (Variables.extend .strict .empty declarations)
      (Variables.extend .lenient .empty declarations) := by
  intro table
  constructor
  · intro built
    exact ⟨Variables.result_lenient_of_ok built, Declarations.evaluates_iff.mpr ⟨table, built⟩⟩
  · rintro ⟨lenient, evaluates⟩
    obtain ⟨strictTable, built⟩ := Declarations.evaluates_iff.mp evaluates
    have same := (Variables.result_lenient_of_ok built).symm.trans lenient
    rwa [Except.ok.inj same] at built

/-- **Strict mode gives the template that lenient mode gives, if its names are XML names and its
variables have strict values.** -/
theorem compile_strict_iff {document : Node} {template : Template} :
    (compile .strict document).result = .ok template ↔
      (compile .lenient document).result = .ok template ∧ template.EveryName Xml.IsName
        ∧ template.declarations.Evaluates .strict := by
  rw [compile, compile]
  split
  case h_2 =>
    constructor
    · intro failed
      cases failed
    · exact And.left
  case h_1 entries _ =>
    simp only [Run.result_bind_eq_ok_iff, Run.result_pure, Except.ok.injEq]
    constructor
    · rintro ⟨root, found, _, checked, declarations, declared, elements, compiled, globals, built,
        _, _, rfl⟩
      obtain ⟨unchecked, named⟩ := (demanding_checkName root root _).mp checked
      obtain ⟨compiled', within⟩ := (demanding_compileElements entries _).mp compiled
      obtain ⟨built', evaluates⟩ := (demanding_extend declarations _).mp built
      exact ⟨⟨root, found, _, unchecked, declarations, declared, elements, compiled', globals,
        built', (), rfl, rfl⟩, ⟨named, within⟩, evaluates⟩
    · rintro ⟨⟨root, found, _, unchecked, declarations, declared, elements, compiled, globals,
        built, _, _, rfl⟩, ⟨named, within⟩, evaluates⟩
      have checked := (demanding_checkName root root _).mpr ⟨unchecked, named⟩
      have compiled' := (demanding_compileElements entries _).mpr ⟨compiled, within⟩
      have built' := (demanding_extend declarations _).mpr ⟨built, evaluates⟩
      exact ⟨root, found, _, checked, declarations, declared, elements, compiled', globals, built',
        (), rfl, rfl⟩

end Strict

end Template

end XmlTemplate
