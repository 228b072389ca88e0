import XmlTemplate.Proofs.Reach
import XmlTemplate.Proofs.Demand

/-!
# What is wrong with a document

Compiling in lenient mode fails for the faults of a document and for nothing else: the document is
no mapping, one of its three sections is missing or has the wrong shape, or an entry of a sequence
is no mapping. `Fault` tells what the faults are, and `faults` lists them in the order in which they
are looked for; the error of a compilation is the first one. That attributes and names are never at
fault, and that variables always have values, is what sets lenient mode apart: strict mode has these
demands besides (`Proofs.Demand`).
-/

namespace XmlTemplate

open Yaml (Node)

/-! ## Faults -/

/-- Whether the node gives a name: a text, a number or a truth value. -/
def Yaml.Node.IsNaming : Node → Prop
  | .string _ | .int _ | .float _ | .bool _ => True
  | _ => False

namespace Template

/-- What is wrong with a document, each fault with the error that it is. -/
inductive Fault (document : Node) : Error → Prop where
  | notMapping : (∀ entries, document.untag ≠ .map entries) →
      Fault document ⟨.templateNotMapping (Value.ofNode document.untag).kind, none⟩
  | noRoot {entries : List (Node × Node)} :
      document.untag = .map entries → section? "root" entries = none →
      Fault document ⟨.missingRoot, none⟩
  | rootNotText {entries : List (Node × Node)} {root : Node} :
      document.untag = .map entries → section? "root" entries = some root →
      ¬root.untag.IsNaming → Fault document ⟨.rootNotText (Value.ofNode root.untag).kind, none⟩
  | variablesNotMapping {entries : List (Node × Node)} {declared : Node} :
      document.untag = .map entries → section? "variables" entries = some declared →
      declared.untag ≠ .null → (∀ inner, declared.untag ≠ .map inner) →
      Fault document ⟨.variablesNotMapping (Value.ofNode declared.untag).kind, none⟩
  | noElements {entries : List (Node × Node)} :
      document.untag = .map entries → section? "elements" entries = none →
      Fault document ⟨.missingElements, none⟩
  | elementsNotMapping {entries : List (Node × Node)} {elements : Node} :
      document.untag = .map entries → section? "elements" entries = some elements →
      elements.untag ≠ .null → (∀ inner, elements.untag ≠ .map inner) →
      Fault document ⟨.elementsNotMapping (Value.ofNode elements.untag).kind, none⟩
  | entryNotMapping {entries inner : List (Node × Node)} {elements item : Node} {place : String} :
      document.untag = .map entries → section? "elements" entries = some elements →
      elements.untag = .map inner → SequenceEntry "" inner place item →
      (∀ mapping, item.untag ≠ .map mapping) →
      Fault document (.located (.entryNotMapping (Value.ofNode item.untag).kind) place)

/-! ### In the order in which they are looked for -/

/-- What is wrong with an entry of a sequence. -/
def entryFault? (entry : String × Node) : Option Error :=
  match entry.2.untag with
  | .map _ => none
  | node => some (.located (.entryNotMapping (Value.ofNode node).kind) entry.1)

def rootFaults (entries : List (Node × Node)) : List Error :=
  match (section? "root" entries).map Node.untag with
  | none => [⟨.missingRoot, none⟩]
  | some (.string _) | some (.int _) | some (.float _) | some (.bool _) => []
  | some node => [⟨.rootNotText (Value.ofNode node).kind, none⟩]

def variablesFaults (entries : List (Node × Node)) : List Error :=
  match (section? "variables" entries).map Node.untag with
  | none | some .null | some (.map _) => []
  | some node => [⟨.variablesNotMapping (Value.ofNode node).kind, none⟩]

def elementsFaults (entries : List (Node × Node)) : List Error :=
  match (section? "elements" entries).map Node.untag with
  | none => [⟨.missingElements, none⟩]
  | some .null => []
  | some (.map elements) => (entriesWithin "" elements).filterMap entryFault?
  | some node => [⟨.elementsNotMapping (Value.ofNode node).kind, none⟩]

/-- All faults of a document: those of the root, of the variables, of the elements, and the entries
of sequences from the first one on. -/
def faults (document : Node) : List Error :=
  match document.untag with
  | .map entries => rootFaults entries ++ (variablesFaults entries ++ elementsFaults entries)
  | node => [⟨.templateNotMapping (Value.ofNode node).kind, none⟩]

end Template

/-! ## Lenient mode fails at the first fault -/

namespace Template

section Lenient

variable {path : String}

/-- Attributes are never at fault. -/
theorem error?_compileAttribute (node : Node) :
    (compileAttribute .lenient path node).error? = none := by
  rw [compileAttribute]
  split
  · split
    · rfl
    · rw [checkName_lenient]
      rfl
  · rfl

theorem error?_compileAttributes (nodes : List Node) :
    (compileAttributes .lenient path nodes).error? = none := by
  induction nodes with
  | nil => rfl
  | cons node rest ih =>
      rw [compileAttributes]
      refine Run.error?_bind_of_none (error?_compileAttribute node) fun _ => ?_
      exact Run.error?_bind_of_none ih fun _ => rfl

theorem error?_compileAttributeSections (entries : List (Node × Node)) :
    (compileAttributeSections .lenient path entries).error? = none := by
  induction entries with
  | nil => rfl
  | cons entry rest ih =>
      have more (attributes : List Attribute) :
          (do
            let more ← compileAttributeSections .lenient path rest
            pure (attributes ++ more)).error? = none :=
        Run.error?_bind_of_none ih fun _ => rfl
      rw [compileAttributeSections]
      split
      · exact Run.error?_bind_of_none (error?_compileAttributes _) more
      · exact Run.error?_bind_of_none rfl more

theorem error?_compileAttributed (entries : List (Node × Node)) :
    (compileAttributed .lenient path entries).error? = none := by
  rw [compileAttributed]
  exact Run.error?_bind_of_none (error?_compileAttributeSections entries) fun _ => rfl

theorem head?_faults_append (entries more : List (String × Node)) :
    ((entries ++ more).filterMap entryFault?).head?
      = (entries.filterMap entryFault?).head?.or (more.filterMap entryFault?).head? := by
  rw [List.filterMap_append, List.head?_append]

theorem head?_faults_cons (entry : String × Node) (more : List (String × Node)) :
    ((entry :: more).filterMap entryFault?).head?
      = (entryFault? entry).or (more.filterMap entryFault?).head? := by
  rw [List.filterMap_cons]
  cases entryFault? entry <;> rfl

mutual

/-- **Elements fail at the first entry of a sequence that is no mapping.** -/
theorem error?_compileContent {path : String} : ∀ entries : List (Node × Node),
    (compileContent .lenient path entries).error?
      = ((entriesWithin path entries).filterMap entryFault?).head?
  | [] => rfl
  | (key, node) :: rest => by
      rw [compileContent, entriesWithin, head?_faults_append, ← error?_compileElement node,
        ← error?_compileContent rest, checkName_lenient, pure_bind]
      exact Run.error?_bind fun _ => Run.error?_bind_of_pure _ _

theorem error?_compileElement {path : String} : ∀ node : Node,
    (compileElement .lenient path node).error?
      = ((entriesOfElement path node).filterMap entryFault?).head?
  | .tagged _ node => by
      rw [compileElement, entriesOfElement]
      exact error?_compileElement node
  | .seq items => by
      rw [compileElement, entriesOfElement, ← error?_compileEntries items]
      exact Run.error?_bind_of_pure _ _
  | .map entries => by
      -- below an element with attributes nothing is looked for
      rw [compileElement_map, entriesOfElement]
      split
      · exact error?_compileAttributed entries
      · rw [← error?_compileContent entries]
        exact Run.error?_bind_of_pure _ _
  | .null | .bool _ | .int _ | .float _ | .string _ => by
      rw [compileElement, entriesOfElement] <;> simp [Run.error?, Run.result_pure]

theorem error?_compileEntries {path : String} : ∀ items : List Node,
    (compileEntries .lenient path items).error?
      = ((entriesAmong path items).filterMap entryFault?).head?
  | [] => rfl
  | item :: rest => by
      rw [compileEntries, entriesAmong, head?_faults_cons, head?_faults_append, ← Option.or_assoc,
        ← error?_compileEntry item, ← error?_compileEntries rest]
      exact Run.error?_bind fun _ => Run.error?_bind_of_pure _ _

/-- An entry that is a mapping is no fault itself, and one that is none leads to no entries. -/
theorem error?_compileEntry {path : String} : ∀ item : Node,
    (compileEntry .lenient path item).error?
      = (entryFault? (path, item)).or ((entriesOfItem path item).filterMap entryFault?).head?
  | .tagged _ node => by
      rw [compileEntry, entriesOfItem]
      exact error?_compileEntry node
  | .map entries => by
      rw [compileEntry, entriesOfItem]
      exact error?_compileContent entries
  | .null | .bool _ | .int _ | .float _ | .string _ | .seq _ => rfl

end

theorem error?_compileRoot (entries : List (Node × Node)) :
    (compileRoot entries).error? = (rootFaults entries).head? := by
  rw [compileRoot, rootFaults]
  cases (section? "root" entries).map Node.untag with
  | none => rfl
  | some root => cases root <;> rfl

theorem error?_compileDeclarations (entries : List (Node × Node)) :
    (compileDeclarations entries).error? = (variablesFaults entries).head? := by
  rw [compileDeclarations, variablesFaults]
  cases (section? "variables" entries).map Node.untag with
  | none => rfl
  | some declared => cases declared <;> rfl

theorem error?_compileElements (entries : List (Node × Node)) :
    (compileElements .lenient entries).error? = (elementsFaults entries).head? := by
  rw [compileElements, elementsFaults]
  cases (section? "elements" entries).map Node.untag with
  | none => rfl
  | some elements =>
      cases elements with
      | map inner => exact error?_compileContent inner
      | null | bool | int | float | string | seq | tagged => rfl

/-- **Lenient mode fails at the first fault of the document.** -/
theorem error?_compile (document : Node) :
    (compile .lenient document).error? = (faults document).head? := by
  rw [compile, faults]
  cases document.untag with
  | map entries =>
      dsimp only
      rw [List.head?_append, List.head?_append, ← error?_compileRoot, ← error?_compileDeclarations,
        ← error?_compileElements]
      refine Run.error?_bind fun root => ?_
      rw [checkName_lenient, pure_bind]
      refine Run.error?_bind fun declarations => ?_
      -- behind the elements come the variables, which have values
      have evaluated : (Variables.extend .lenient .empty declarations).error? = none :=
        Run.error?_eq_none_iff.mpr (Variables.exists_extend_lenient .empty declarations)
      refine (Run.error?_bind fun elements => ?_).trans (Option.or_none ..)
      exact Run.error?_bind_of_none evaluated fun _ => rfl
  | null | bool | int | float | string | seq | tagged => rfl

end Lenient

/-! ## The faults are those listed -/

section Listed

variable {entries : List (Node × Node)} {e : Error}

theorem entryFault?_eq_some_iff {place : String} {item : Node} :
    entryFault? (place, item) = some e ↔ (∀ mapping, item.untag ≠ .map mapping)
      ∧ e = .located (.entryNotMapping (Value.ofNode item.untag).kind) place := by
  rw [entryFault?]
  dsimp only
  cases item.untag with
  | map mapping => simp
  | null | bool | int | float | string | seq | tagged => simp [eq_comm]

theorem mem_rootFaults_iff : e ∈ rootFaults entries ↔
    (section? "root" entries = none ∧ e = ⟨.missingRoot, none⟩) ∨
    ∃ root, section? "root" entries = some root ∧ ¬root.untag.IsNaming
      ∧ e = ⟨.rootNotText (Value.ofNode root.untag).kind, none⟩ := by
  rw [rootFaults]
  cases section? "root" entries with
  | none => simp
  | some root =>
      rw [Option.map_some]
      cases shape : root.untag <;> simp [shape, Node.IsNaming]

theorem mem_variablesFaults_iff : e ∈ variablesFaults entries ↔
    ∃ declared, section? "variables" entries = some declared ∧ declared.untag ≠ .null
      ∧ (∀ inner, declared.untag ≠ .map inner)
      ∧ e = ⟨.variablesNotMapping (Value.ofNode declared.untag).kind, none⟩ := by
  rw [variablesFaults]
  cases section? "variables" entries with
  | none => simp
  | some declared =>
      rw [Option.map_some]
      cases shape : declared.untag <;> simp [shape]

theorem mem_elementsFaults_iff : e ∈ elementsFaults entries ↔
    (section? "elements" entries = none ∧ e = ⟨.missingElements, none⟩) ∨
    ∃ elements, section? "elements" entries = some elements ∧
      ((elements.untag ≠ .null ∧ (∀ inner, elements.untag ≠ .map inner)
        ∧ e = ⟨.elementsNotMapping (Value.ofNode elements.untag).kind, none⟩) ∨
      ∃ inner place item, elements.untag = .map inner ∧ SequenceEntry "" inner place item
        ∧ (∀ mapping, item.untag ≠ .map mapping)
        ∧ e = .located (.entryNotMapping (Value.ofNode item.untag).kind) place) := by
  rw [elementsFaults]
  cases section? "elements" entries with
  | none => simp
  | some elements =>
      rw [Option.map_some]
      cases shape : elements.untag with
      | map inner =>
          simp [shape, List.mem_filterMap, entryFault?_eq_some_iff, mem_entriesWithin_iff]
      | null | bool | int | float | string | seq | tagged => simp [shape]

/-- **The faults that are listed are the faults.** -/
theorem mem_faults_iff {document : Node} : e ∈ faults document ↔ Fault document e := by
  rw [faults]
  constructor
  · cases shape : document.untag with
    | map entries =>
        intro listed
        rw [List.mem_append, List.mem_append, mem_rootFaults_iff, mem_variablesFaults_iff,
          mem_elementsFaults_iff] at listed
        rcases listed with root | declared | elements
        · rcases root with ⟨absent, rfl⟩ | ⟨root, found, noName, rfl⟩
          · exact .noRoot shape absent
          · exact .rootNotText shape found noName
        · obtain ⟨declared, found, notNull, notMap, rfl⟩ := declared
          exact .variablesNotMapping shape found notNull notMap
        · rcases elements with ⟨absent, rfl⟩ | ⟨elements, found, elements⟩
          · exact .noElements shape absent
          rcases elements with ⟨notNull, notMap, rfl⟩ | ⟨inner, place, item, isMap, reached, rest⟩
          · exact .elementsNotMapping shape found notNull notMap
          · obtain ⟨notMap, rfl⟩ := rest
            exact .entryNotMapping shape found isMap reached notMap
    | null | bool | int | float | string | seq | tagged =>
        intro listed
        rw [List.mem_singleton] at listed
        have notMap : ∀ entries, document.untag ≠ .map entries := by simp [shape]
        rw [listed, ← shape]
        exact .notMapping notMap
  · intro fault
    cases fault with
    | notMapping notMap =>
        split
        · exact absurd ‹_› (notMap _)
        · exact List.mem_singleton_self _
    | noRoot shape absent =>
        rw [shape]
        exact List.mem_append_left _ (mem_rootFaults_iff.mpr (.inl ⟨absent, rfl⟩))
    | rootNotText shape found noName =>
        rw [shape]
        exact List.mem_append_left _ (mem_rootFaults_iff.mpr (.inr ⟨_, found, noName, rfl⟩))
    | variablesNotMapping shape found notNull notMap =>
        rw [shape]
        have listed := mem_variablesFaults_iff.mpr ⟨_, found, notNull, notMap, rfl⟩
        exact List.mem_append_right _ (List.mem_append_left _ listed)
    | noElements shape absent =>
        rw [shape]
        have listed := mem_elementsFaults_iff.mpr (.inl ⟨absent, rfl⟩)
        exact List.mem_append_right _ (List.mem_append_right _ listed)
    | elementsNotMapping shape found notNull notMap =>
        rw [shape]
        have listed := mem_elementsFaults_iff.mpr (.inr ⟨_, found, .inl ⟨notNull, notMap, rfl⟩⟩)
        exact List.mem_append_right _ (List.mem_append_right _ listed)
    | entryNotMapping shape found isMap reached notMap =>
        rw [shape]
        have listed := mem_elementsFaults_iff.mpr
          (.inr ⟨_, found, .inr ⟨_, _, _, isMap, reached, notMap, rfl⟩⟩)
        exact List.mem_append_right _ (List.mem_append_right _ listed)

end Listed

end Template

/-! ## When compiling fails -/

/--
**Compiling fails exactly on the faults of the document.**

In lenient mode it fails if there is a fault, and then with the error of the first one in the order
in which they are looked for. In strict mode it gives a template exactly if lenient mode gives the
same one, with the same table of variables, all its names are XML names, and all its variables have
strict values.
-/
theorem compile_fails_at_first_fault (document : Node) :
    ((∃ e, (Template.compile .lenient document).result = .error e) ↔
      ∃ e, Template.Fault document e) ∧
    (∀ e, (Template.compile .lenient document).result = .error e ↔
      (Template.faults document).head? = some e) ∧
    (∀ e, e ∈ Template.faults document ↔ Template.Fault document e) ∧
    ∀ template, (Template.compile .strict document).result = .ok template ↔
      (Template.compile .lenient document).result = .ok template
        ∧ template.EveryName Xml.IsName ∧ template.declarations.Evaluates .strict := by
  have first (e : Error) : (Template.compile .lenient document).result = .error e ↔
      (Template.faults document).head? = some e := by
    rw [← Run.error?_eq_some_iff, Template.error?_compile]
  refine ⟨⟨?fault, ?fails⟩, first, fun e => Template.mem_faults_iff,
    fun template => Template.compile_strict_iff⟩
  case fault =>
    rintro ⟨e, failed⟩
    have listed : e ∈ Template.faults document := List.mem_of_mem_head? ((first e).mp failed)
    exact ⟨e, Template.mem_faults_iff.mp listed⟩
  case fails =>
    rintro ⟨e, fault⟩
    have listed : e ∈ Template.faults document := Template.mem_faults_iff.mpr fault
    cases inOrder : Template.faults document with
    | nil =>
        rw [inOrder] at listed
        exact absurd listed (by simp)
    | cons e' more => exact ⟨e', (first e').mpr (by rw [inOrder]; rfl)⟩

end XmlTemplate
