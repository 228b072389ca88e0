import Mathlib.Data.List.Forall2
import XmlTemplate.Proofs.Table

/-!
# Comparing two renders

Much of what is said about renders relates two of them, which differ in the mode, in the limit of
depth or in the data. How the two are related is another matter each time. That they are so related
as a whole, once they are in every piece, is always the same argument, and it is made here:
`Comparison` says what has to be known of the pieces, and `Comparison.renderElements` and
`Comparison.body` carry it through groups and sequences to the whole. A property of one render that
goes through its pieces is the case in which a render is compared with itself.
-/

namespace XmlTemplate

/-! ## Sequences -/

section Sequence

variable {scope : Scope} {name path : String} {depth : Nat} {data : Value} {entries : List Content}

/-- A sequence for which the data have a list is rendered item by item. -/
theorem renderElement_of_list {items : List Value}
    (h : data.lookup? name.toList = some (.list items)) :
    renderElement scope name path depth data (.sequence entries)
      = writeElement name []
        (forEachItem (fun item => renderEntries scope path (depth + 1) item entries) items) := by
  rw [renderElement, h]

/-- One for which they have none degrades. -/
theorem renderElement_of_no_list
    (h : ∀ items, data.lookup? name.toList ≠ some (.list items)) :
    renderElement scope name path depth data (.sequence entries)
      = (Run.degrade scope.mode (.sequenceWithoutList path
        ((data.lookup? name.toList).map Value.kind))).locate path := by
  rw [renderElement]
  split
  · exact absurd ‹_› (h _)
  · rfl

/-- The data have a list for a sequence, and with it the same one, or they have none. -/
theorem lists_or_none (data : Value) (name : String) :
    (∃ items items', data.lookup? name.toList = some (.list items)
        ∧ data.lookup? name.toList = some (.list items') ∧ List.Forall₂ (· = ·) items items') ∨
      ∀ items, data.lookup? name.toList ≠ some (.list items) := by
  by_cases found : ∃ items, data.lookup? name.toList = some (.list items)
  · obtain ⟨items, found⟩ := found
    exact .inl ⟨items, items, found, found, List.forall₂_same.mpr fun _ _ => rfl⟩
  · exact .inr (not_exists.mp found)

end Sequence

/-! ## Comparing piece by piece -/

/-- What has to hold of the pieces of two renders in the scopes `scope` and `scope'`, so that their
runs are related by `R` wherever the data that they see are related by `S`. -/
structure Comparison (scope scope' : Scope) (S : Value → Value → Prop)
    (R : Run Unit → Run Unit → Prop) : Prop where
  nothing : R (pure ()) (pure ())
  seq {run run' next next' : Run Unit} :
    R run run' → R next next' → R (do run; next) (do run'; next')
  write (markup : Xml.Markup) : R (Run.write markup) (Run.write markup)
  enter (path : String) (depth : Nat) : R (scope.enter path depth) (scope'.enter path depth)
  leaf (name path : String) (depth : Nat) (expression : Value) {data data' : Value} :
    S data data' → R (renderElement scope name path depth data (.leaf expression))
      (renderElement scope' name path depth data' (.leaf expression))
  attributed (name path : String) (depth : Nat) (expression : Value)
    (attributes : List Attribute) {data data' : Value} :
    S data data' → R (renderElement scope name path depth data (.attributed expression attributes))
      (renderElement scope' name path depth data' (.attributed expression attributes))
  /-- Both renders find lists with related items, or else it does not matter what is in the
  sequence. -/
  sequence (name path : String) (depth : Nat) (entries : List Content) {data data' : Value} :
    S data data' →
      (∃ items items', data.lookup? name.toList = some (.list items)
        ∧ data'.lookup? name.toList = some (.list items') ∧ List.Forall₂ S items items') ∨
      R (renderElement scope name path depth data (.sequence entries))
        (renderElement scope' name path depth data' (.sequence entries))

namespace Comparison

variable {scope scope' : Scope} {S : Value → Value → Prop} {R : Run Unit → Run Unit → Prop}

theorem writeElement (h : Comparison scope scope' S R) (name : String) {inside inside' : Run Unit}
    (related : R inside inside') :
    R (writeElement name [] inside) (writeElement name [] inside') :=
  h.seq (h.write _) (h.seq related (h.write _))

theorem forEachItem (h : Comparison scope scope' S R) {action action' : Value → Run Unit}
    (each : ∀ item item', S item item' → R (action item) (action' item'))
    {items items' : List Value} (related : List.Forall₂ S items items') :
    R (forEachItem action items) (forEachItem action' items') := by
  induction related with
  | nil => exact h.nothing
  | cons first _ ih => exact h.seq (each _ _ first) ih

mutual

theorem renderElements (h : Comparison scope scope' S R) (path : String) (depth : Nat)
    {data data' : Value} (related : S data data') :
    ∀ content : List (String × Element), R (renderElements scope path depth data content)
      (renderElements scope' path depth data' content)
  | [] => h.nothing
  | (name, element) :: rest => by
      rw [XmlTemplate.renderElements, XmlTemplate.renderElements]
      exact h.seq (renderElement h name _ depth related element)
        (renderElements h path depth related rest)

theorem renderElement (h : Comparison scope scope' S R) (name path : String) (depth : Nat)
    {data data' : Value} (related : S data data') :
    ∀ element : Element, R (renderElement scope name path depth data element)
      (renderElement scope' name path depth data' element)
  | .leaf expression => h.leaf name path depth expression related
  | .attributed expression attributes =>
      h.attributed name path depth expression attributes related
  | .group children => by
      rw [XmlTemplate.renderElement, XmlTemplate.renderElement]
      exact h.writeElement name (h.seq (h.enter path (depth + 1))
        (renderElements h path (depth + 1) related children))
  | .sequence entries => by
      rcases h.sequence name path depth entries related with
        ⟨items, items', found, found', pairs⟩ | whole
      · rw [renderElement_of_list found, renderElement_of_list found']
        exact h.writeElement name (h.forEachItem
          (fun _ _ same => renderEntries h path (depth + 1) same entries) pairs)
      · exact whole

theorem renderEntries (h : Comparison scope scope' S R) (path : String) (depth : Nat)
    {item item' : Value} (related : S item item') :
    ∀ entries : List (List (String × Element)), R (renderEntries scope path depth item entries)
      (renderEntries scope' path depth item' entries)
  | [] => h.nothing
  | content :: rest => by
      rw [XmlTemplate.renderEntries, XmlTemplate.renderEntries]
      exact h.seq (h.enter path depth) (h.seq (renderElements h path depth related content)
        (renderEntries h path depth related rest))

end

end Comparison

/-! ## Whole renders -/

/-- What a render writes once its table is built. -/
def Template.body (template : Template) (scope : Scope) (data : Value) : Run Unit :=
  writeElement template.root [] do
    scope.enter "" 0
    renderElements scope "" 0 data template.elements

/-- The render of data, under a limit of depth or without one. -/
def Template.renderWithin (template : Template) (mode : Mode) (data : Value)
    (runtime : Declarations) (limit : Option Nat) : Run Unit :=
  template.render mode { data := .ok data, declarations := runtime, maxDepth := limit }

/-- A render builds the table, says so, and goes on with that. -/
theorem Template.render_eq (template : Template) (mode : Mode) (request : Request) :
    template.render mode request =
      (do
        let data ← Run.ofExcept
          (request.data.mapError fun reason => ⟨.unconvertibleData reason, none⟩)
        let table ← template.table mode request.declarations
        Run.emit (.rendering template.root table.size)
        template.body { mode, table, maxDepth := request.maxDepth } data) := rfl

theorem Template.renderWithin_eq (template : Template) (mode : Mode) (data : Value)
    (runtime : Declarations) (limit : Option Nat) :
    template.renderWithin mode data runtime limit =
      (do
        let table ← template.table mode runtime
        Run.emit (.rendering template.root table.size)
        template.body { mode, table, maxDepth := limit } data) := by
  rw [renderWithin, render_eq]
  exact pure_bind data _

theorem Comparison.body {scope scope' : Scope} {S : Value → Value → Prop}
    {R : Run Unit → Run Unit → Prop} (h : Comparison scope scope' S R) (template : Template)
    {data data' : Value} (related : S data data') :
    R (template.body scope data) (template.body scope' data') :=
  h.writeElement _ (h.seq (h.enter "" 0) (h.renderElements "" 0 related template.elements))

end XmlTemplate
