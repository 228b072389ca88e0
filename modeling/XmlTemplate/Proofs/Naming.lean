import XmlTemplate.Proofs.Demand
import XmlTemplate.Proofs.Legal

/-!
# Names in strict mode and names of XML

Strict mode takes for a name what Unicode takes for an identifier, with four more characters. The
production `Name` of XML has tables of its own. They hold all that strict mode accepts but for four
characters (`Xml.foreignChars`), and these are really missing there: so an accepted name is one of
XML exactly if it has none of them (`strict_names_are_xml_names`). What is written in tags are names
of the template (`namesOnly_render`), whether the render succeeds or not, so the same can be said of
the output.
-/

namespace XmlTemplate

/-! ## Tables -/

namespace Text

/-- Every range of the table is part of a range of the other one. -/
def RangeTable.within (table wider : RangeTable) : Bool :=
  table.all fun range => wider.any fun w => decide (w.1 ≤ range.1) && decide (range.2 ≤ w.2)

theorem RangeTable.covers_of_within {table wider : RangeTable} (h : table.within wider = true)
    {c : Char} (covered : table.covers c = true) : wider.covers c = true := by
  obtain ⟨range, member, low, high⟩ := RangeTable.covers_iff.mp covered
  obtain ⟨w, member', part⟩ := List.any_eq_true.mp (List.all_eq_true.mp h range member)
  rw [Bool.and_eq_true, decide_eq_true_eq, decide_eq_true_eq] at part
  exact RangeTable.covers_iff.mpr ⟨w, member', Nat.le_trans part.1 low, Nat.le_trans high part.2⟩

theorem RangeTable.covers_append {table more : RangeTable} {c : Char} :
    RangeTable.covers (table ++ more) c = true ↔ table.covers c = true ∨ more.covers c = true := by
  rw [RangeTable.covers, List.any_append, Bool.or_eq_true]
  rfl

end Text

/-! ## The production `Name` -/

namespace Xml

/-- The characters of the production `NameStartChar` of XML 1.0, fifth edition. -/
def nameStartChars : Text.RangeTable := [
  (0x3A, 0x3A), (0x41, 0x5A), (0x5F, 0x5F), (0x61, 0x7A), (0xC0, 0xD6), (0xD8, 0xF6),
  (0xF8, 0x2FF), (0x370, 0x37D), (0x37F, 0x1FFF), (0x200C, 0x200D), (0x2070, 0x218F),
  (0x2C00, 0x2FEF), (0x3001, 0xD7FF), (0xF900, 0xFDCF), (0xFDF0, 0xFFFD), (0x10000, 0xEFFFF)]

/-- The characters of the production `NameChar`. -/
def nameChars : Text.RangeTable :=
  nameStartChars ++ [(0x2D, 0x2D), (0x2E, 0x2E), (0x30, 0x39), (0xB7, 0xB7), (0x300, 0x36F),
    (0x203F, 0x2040)]

/-- The text is derived from the production `Name`. -/
def MatchesName : List Char → Prop
  | [] => False
  | first :: rest => nameStartChars.covers first = true ∧ ∀ c ∈ rest, nameChars.covers c = true

/-- The characters of identifiers that no name of XML has: the two ordinal indicators, the sign of
the micron, and the inverted undertie. -/
def foreignChars : List Char :=
  ['ª', 'µ', 'º', '⁔']

/-- The ranges of these characters. -/
def foreignRanges : Text.RangeTable :=
  foreignChars.map fun c => (c.toNat, c.toNat)

theorem mem_foreignChars {c : Char} (h : foreignRanges.covers c = true) : c ∈ foreignChars := by
  obtain ⟨range, member, low, high⟩ := Text.RangeTable.covers_iff.mp h
  obtain ⟨d, foreign, rfl⟩ := List.mem_map.mp member
  have same : c.toNat = d.toNat := Nat.le_antisymm high low
  rwa [Char.toNat_inj.mp same]

theorem identifierStarts_within :
    Text.identifierStarts.within (nameStartChars ++ foreignRanges) = true := by
  decide +kernel

theorem identifierContinues_within :
    Text.identifierContinues.within (nameChars ++ foreignRanges) = true := by
  decide +kernel

theorem not_covers_foreign {c : Char} (h : c ∈ foreignChars) : nameChars.covers c = false := by
  have none : foreignChars.all (fun c => !nameChars.covers c) = true := by decide
  simpa using List.all_eq_true.mp none c h

theorem covers_nameChars_of_start {c : Char} (h : nameStartChars.covers c = true) :
    nameChars.covers c = true :=
  Text.RangeTable.covers_append.mpr (.inl h)

/-- What strict mode lets a name start with may start a name of XML, with these exceptions. -/
theorem covers_nameStartChars_iff {c : Char} (h : isNameStart c = true) :
    nameStartChars.covers c = true ↔ c ∉ foreignChars := by
  constructor
  · intro covered foreign
    have := not_covers_foreign foreign
    rw [covers_nameChars_of_start covered] at this
    cases this
  · intro own
    rw [isNameStart, Bool.or_eq_true, Bool.or_eq_true, beq_iff_eq, beq_iff_eq] at h
    rcases h with (rfl | rfl) | identifier
    · decide
    · decide
    · have covered := Text.RangeTable.covers_of_within identifierStarts_within identifier
      exact (Text.RangeTable.covers_append.mp covered).resolve_right
        fun foreign => own (mem_foreignChars foreign)

/-- What strict mode lets stand in a name may stand in a name of XML, with the same exceptions. -/
theorem covers_nameChars_iff {c : Char} (h : isNameContinue c = true) :
    nameChars.covers c = true ↔ c ∉ foreignChars := by
  constructor
  · intro covered foreign
    rw [not_covers_foreign foreign] at covered
    cases covered
  · intro own
    rw [isNameContinue, Bool.or_eq_true, Bool.or_eq_true, Bool.or_eq_true, beq_iff_eq, beq_iff_eq,
      beq_iff_eq, Text.isIdentifierContinue, Bool.or_eq_true] at h
    rcases h with ((rfl | rfl) | rfl) | start | identifier
    · decide
    · decide
    · decide
    · exact covers_nameChars_of_start ((covers_nameStartChars_iff (by
        rw [isNameStart, Text.isIdentifierStart, start, Bool.or_true])).mpr own)
    · have covered := Text.RangeTable.covers_of_within identifierContinues_within identifier
      exact (Text.RangeTable.covers_append.mp covered).resolve_right
        fun foreign => own (mem_foreignChars foreign)

/-- **An accepted name is a name of XML exactly if it has none of the foreign characters.** -/
theorem matchesName_iff {name : List Char} (accepted : isName name = true) :
    MatchesName name ↔ ∀ c ∈ name, c ∉ foreignChars := by
  cases name with
  | nil => cases accepted
  | cons first rest =>
      rw [isName, Bool.and_eq_true, List.all_eq_true] at accepted
      rw [MatchesName, List.forall_mem_cons, covers_nameStartChars_iff accepted.1]
      exact and_congr_right'
        (forall₂_congr fun c member => covers_nameChars_iff (accepted.2 c member))

/-! ## The names that are written -/

/-- The names in a piece of markup: those of the tag and of its attributes. -/
def Markup.names : Markup → List String
  | .startTag name attributes => name :: attributes.map Attribute.name
  | .text _ => []
  | .endTag name => [name]

end Xml

namespace Run

variable {α β : Type} {p : String → Prop}

/-- All names that are written have the property. -/
def NamesOnly (p : String → Prop) (run : Run α) : Prop :=
  ∀ markup, .wrote markup ∈ run.events → ∀ name ∈ markup.names, p name

theorem namesOnly_of_no_events {run : Run α} (h : run.events = []) : run.NamesOnly p := by
  intro markup member
  rw [h] at member
  exact absurd member List.not_mem_nil

theorem NamesOnly.bind {run : Run α} {next : α → Run β} (h : run.NamesOnly p)
    (hnext : ∀ a, run.result = .ok a → (next a).NamesOnly p) : (run >>= next).NamesOnly p := by
  intro markup member
  rcases mem_events_bind member with member | ⟨a, success, member⟩
  · exact h markup member
  · exact hnext a success markup member

theorem OnlyDegrades.namesOnly {run : Run α} (h : run.OnlyDegrades) : run.NamesOnly p := by
  intro markup member
  obtain ⟨degradation, path, same⟩ := h _ member
  cases same

theorem namesOnly_write {markup : Xml.Markup} (h : ∀ name ∈ markup.names, p name) :
    (write markup).NamesOnly p := by
  intro markup' member
  cases List.mem_singleton.mp member
  exact h

end Run

section Written

open Run (NamesOnly)

variable {p : String → Prop} {scope : Scope}

theorem namesOnly_enter (path : String) (depth : Nat) : (scope.enter path depth).NamesOnly p := by
  rcases scope.enter_cases path depth with ⟨_, _, _, tooDeep⟩ | entered
  · rw [tooDeep]
    exact Run.namesOnly_of_no_events rfl
  · rw [entered]
    intro markup member
    cases List.mem_singleton.mp member

theorem namesOnly_writeElement {name : String} {attributes : List Xml.Attribute} {inside : Run Unit}
    (named : p name) (namedKeys : ∀ a ∈ attributes, p a.name) (h : inside.NamesOnly p) :
    (writeElement name attributes inside).NamesOnly p := by
  have startTag : ∀ n ∈ (Xml.Markup.startTag name attributes).names, p n := by
    simpa [Xml.Markup.names] using ⟨named, namedKeys⟩
  have endTag : ∀ n ∈ (Xml.Markup.endTag name).names, p n := by
    simpa [Xml.Markup.names] using named
  exact (Run.namesOnly_write startTag).bind fun _ _ =>
    h.bind fun _ _ => Run.namesOnly_write endTag

theorem namesOnly_text (s : String) : (Run.write (.text s)).NamesOnly p :=
  Run.namesOnly_write fun _ member => absurd member List.not_mem_nil

theorem namesOnly_forEachItem {action : Value → Run Unit} (each : ∀ item, (action item).NamesOnly p)
    (items : List Value) : (forEachItem action items).NamesOnly p := by
  induction items with
  | nil => exact Run.namesOnly_of_no_events rfl
  | cons item rest ih => exact (each item).bind fun _ _ => ih

mutual

theorem namesOnly_renderElements {path : String} {depth : Nat} {data : Value} :
    ∀ {content : List (String × Element)}, Content.EveryName p content →
      (renderElements scope path depth data content).NamesOnly p
  | [], _ => Run.namesOnly_of_no_events rfl
  | (name, element) :: rest, ⟨named, inside, later⟩ => by
      rw [renderElements]
      exact (namesOnly_renderElement named inside).bind fun _ _ => namesOnly_renderElements later

theorem namesOnly_renderElement {name path : String} {depth : Nat} {data : Value}
    (named : p name) : ∀ {element : Element}, Element.EveryName p element →
      (renderElement scope name path depth data element).NamesOnly p
  | .leaf expression, _ => by
      rw [renderElement]
      exact (scope.evaluate_onlyDegrades path data expression).namesOnly.bind fun _ _ =>
        namesOnly_writeElement named (by simp) (namesOnly_text _)
  | .attributed expression attributes, namedKeys => by
      rw [renderElement]
      refine (scope.evaluate_onlyDegrades path data expression).namesOnly.bind fun _ _ => ?_
      refine (scope.attributes_onlyDegrades path data attributes).namesOnly.bind
        fun written evaluated => ?_
      obtain ⟨_, namedWritten⟩ := depictAttributes_of_attributes evaluated namedKeys
      exact namesOnly_writeElement named namedWritten (namesOnly_text _)
  | .group children, inside => by
      rw [renderElement]
      exact namesOnly_writeElement named (by simp) ((namesOnly_enter path (depth + 1)).bind
        fun _ _ => namesOnly_renderElements inside)
  | .sequence entries, inside => by
      rcases lists_or_none data name with ⟨items, _, found, _⟩ | none
      · rw [renderElement_of_list found]
        exact namesOnly_writeElement named (by simp)
          (namesOnly_forEachItem (fun _ => namesOnly_renderEntries inside) items)
      · rw [renderElement_of_no_list none]
        exact ((Run.unplaced_degrade scope.mode _).locate path).namesOnly

theorem namesOnly_renderEntries {path : String} {depth : Nat} {item : Value} :
    ∀ {entries : List (List (String × Element))}, Content.EveryNames p entries →
      (renderEntries scope path depth item entries).NamesOnly p
  | [], _ => Run.namesOnly_of_no_events rfl
  | content :: rest, ⟨inside, later⟩ => by
      rw [renderEntries]
      exact (namesOnly_enter path depth).bind fun _ _ =>
        (namesOnly_renderElements inside).bind fun _ _ => namesOnly_renderEntries later

end

/-- The names that a render writes, even one that fails, are names of the template. -/
theorem namesOnly_render {template : Template} (named : template.EveryName p) (mode : Mode)
    (request : Request) : (template.render mode request).NamesOnly p := by
  rw [Template.render_eq]
  refine Run.NamesOnly.bind (Run.namesOnly_of_no_events rfl) fun data _ => ?_
  refine (template.table_onlyDegrades mode _).namesOnly.bind fun table _ => ?_
  refine Run.NamesOnly.bind (fun markup member => ?_) fun _ _ => ?_
  · cases List.mem_singleton.mp member
  · exact namesOnly_writeElement named.1 (by simp) ((namesOnly_enter "" 0).bind
      fun _ _ => namesOnly_renderElements named.2)

end Written

/--
**Names in strict mode are names of XML but for four characters.**

A text that strict mode accepts as a name is derived from the production `Name` of XML 1.0 exactly
if it has none of the four characters of identifiers that XML excludes from names. Whatever a
template that is compiled in strict mode writes, in either mode and also in a render that fails, its
tags and attributes have accepted names, which are names of XML exactly in that case.
-/
theorem strict_names_are_xml_names (name : String) :
    (Xml.isName name.toList = true →
      (Xml.MatchesName name.toList ↔ ∀ c ∈ name.toList, c ∉ Xml.foreignChars)) ∧
    ∀ (document : Yaml.Node) (template : Template),
      (Template.compile .strict document).result = .ok template →
      ∀ (mode : Mode) (request : Request) (markup : Xml.Markup),
        .wrote markup ∈ (template.render mode request).events → name ∈ markup.names →
        Xml.isName name.toList = true ∧
        (Xml.MatchesName name.toList ↔ ∀ c ∈ name.toList, c ∉ Xml.foreignChars) := by
  refine ⟨Xml.matchesName_iff, ?_⟩
  intro document template compiled mode request markup member written
  have named : template.EveryName Xml.IsName := (Template.compile_strict_iff.mp compiled).2.1
  have accepted : Xml.isName name.toList = true :=
    namesOnly_render named mode request markup member name written
  exact ⟨accepted, Xml.matchesName_iff accepted⟩

/-- A document with names in two scripts, one of them with a colon. -/
def scriptsDocument : Yaml.Node :=
  .map [(.string "root", .string "größe"), (.string "elements", .map [
    (.string "ключ", .map [(.string "value", .null), (.string "attributes", .seq [
      .map [(.string "name", .string "x:a-b"), (.string "value", .string "1")]])])])]

def scriptsTemplate : Template where
  root := "größe"
  declarations := []
  globals := .empty
  elements := [("ключ", .attributed .null [⟨"x:a-b", .string "1"⟩])]

theorem strict_names_are_xml_names_scripts :
    Xml.isName "größe".toList = true ∧ Xml.MatchesName "größe".toList ∧
    (Template.compile .strict scriptsDocument).result = .ok scriptsTemplate ∧
    .wrote (.startTag "ключ" [⟨"x:a-b", "1"⟩]) ∈ (scriptsTemplate.render .lenient {}).events ∧
    Xml.MatchesName "ключ".toList ∧ Xml.MatchesName "x:a-b".toList := by
  have accepted : Xml.isName "größe".toList = true := by decide +kernel
  have compiled : (Template.compile .strict scriptsDocument).result = .ok scriptsTemplate := by
    rfl
  have written : .wrote (.startTag "ключ" [⟨"x:a-b", "1"⟩])
      ∈ (scriptsTemplate.render .lenient {}).events := by
    decide +kernel
  have own {name : List Char} (h : name.all (!Xml.foreignChars.contains ·) = true) :
      ∀ c ∈ name, c ∉ Xml.foreignChars := by
    simpa using h
  have named {name : String}
      (h : name ∈ (Xml.Markup.startTag "ключ" [⟨"x:a-b", "1"⟩]).names) :=
    ((strict_names_are_xml_names name).2 _ _ compiled _ _ _ written h).2
  exact ⟨accepted, ((strict_names_are_xml_names "größe").1 accepted).mpr (own (by decide)),
    compiled, written, (named (by decide)).mpr (own (by decide)),
    (named (by decide)).mpr (own (by decide))⟩

/-- A template whose root has the name of the feminine ordinal indicator is compiled in strict mode
and written with that name, which is none of XML. -/
theorem exists_accepted_name_not_xml :
    Xml.isName ['ª'] = true ∧ ¬ Xml.MatchesName ['ª'] ∧
    ∃ document template, (Template.compile .strict document).result = .ok template ∧
      .wrote (.startTag "ª" []) ∈ (template.render .strict {}).events := by
  refine ⟨by decide +kernel, ?_, ?_⟩
  · rintro ⟨start, _⟩
    exact absurd start (by decide)
  · exact ⟨.map [(.string "root", .string "ª"), (.string "elements", .null)],
      ⟨"ª", [], .empty, []⟩, rfl, by decide +kernel⟩

end XmlTemplate
