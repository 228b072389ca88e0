import XmlTemplate.Proofs.Comparison

/-!
# Tiers of elements

Elements stand side by side in tiers: the elements of the root are one, and so are the children of a
group, and every entry of a sequence for every item. Which tiers a render comes to depends on the
data, but not on the run: `Template.tiers` lists them in the order of the document, each with its
depth, and a render enters them in that order, up to its end or its error (`enters_renderElements`).

No tier is more than one level below all those before it (`Tier.Gradual`).
-/

namespace XmlTemplate

/-! ## Tiers -/

/-- A list of elements that stand side by side: the path of the element that they stand in, and the
number of groups and entries of sequences around them. -/
structure Tier where
  path : String
  depth : Nat
deriving DecidableEq, Repr

/-- The tier with more levels around it. -/
def Tier.deeper (levels : Nat) (tier : Tier) : Tier :=
  { tier with depth := tier.depth + levels }

theorem Tier.map_deeper_deeper (m n : Nat) (tiers : List Tier) :
    (tiers.map (deeper m)).map (deeper n) = tiers.map (deeper (n + m)) := by
  rw [List.map_map]
  refine List.map_congr_left fun tier _ => ?_
  simp only [Function.comp, deeper, Tier.mk.injEq, true_and]
  omega

/-- A tier one level down and the tiers inside it, whose depths are counted from there. -/
def nestedTiers (path : String) (inside : List Tier) : List Tier :=
  (⟨path, 0⟩ :: inside).map (Tier.deeper 1)

mutual

/-- The tiers inside the elements of a tier, in the order of the document. Their depths are counted
from that tier. -/
def contentTiers (data : Value) (path : String) : List (String × Element) → List Tier
  | [] => []
  | (name, element) :: rest =>
    elementTiers name (Path.child path name) data element ++ contentTiers data path rest

/-- The tiers inside an element. A group has one, also if it is empty, and a sequence has one for
each entry and item, so it has none if there are no items. -/
def elementTiers (name path : String) (data : Value) : Element → List Tier
  | .leaf _ => []
  | .attributed _ _ => []
  | .group children => nestedTiers path (contentTiers data path children)
  | .sequence entries =>
    match data.lookup? name.toList with
    | some (.list items) => items.flatMap fun item => entriesTiers item path entries
    | _ => []

/-- The tiers of the entries of a sequence for one item. -/
def entriesTiers (item : Value) (path : String) : List (List (String × Element)) → List Tier
  | [] => []
  | content :: rest =>
    nestedTiers path (contentTiers item path content) ++ entriesTiers item path rest

end

theorem elementTiers_of_list {name path : String} {data : Value} {entries : List Content}
    {items : List Value} (h : data.lookup? name.toList = some (.list items)) :
    elementTiers name path data (.sequence entries)
      = items.flatMap fun item => entriesTiers item path entries := by
  rw [elementTiers, h]

theorem elementTiers_of_no_list {name path : String} {data : Value} {entries : List Content}
    (h : ∀ items, data.lookup? name.toList ≠ some (.list items)) :
    elementTiers name path data (.sequence entries) = [] := by
  rw [elementTiers]
  split
  · exact absurd ‹_› (h _)
  · rfl

/-- The tiers of a template for the data, in the order of the document. -/
def Template.tiers (template : Template) (data : Value) : List Tier :=
  ⟨"", 0⟩ :: contentTiers data "" template.elements

/-! ## No tier skips a level -/

/-- No tier is more than one level below the deepest one before it, where `reached` levels count as
reached from the start. -/
def Tier.Gradual (reached : Nat) : List Tier → Prop
  | [] => True
  | tier :: rest => tier.depth ≤ reached + 1 ∧ Gradual (max reached tier.depth) rest

namespace Tier.Gradual

theorem mono {reached more : Nat} {tiers : List Tier} (h : Gradual reached tiers)
    (le : reached ≤ more) : Gradual more tiers := by
  induction tiers generalizing reached more with
  | nil => exact h
  | cons tier rest ih =>
      obtain ⟨near, rest⟩ := h
      exact ⟨by omega, ih rest (by omega)⟩

theorem append {reached : Nat} {tiers more : List Tier} (h : Gradual reached tiers)
    (hmore : Gradual reached more) : Gradual reached (tiers ++ more) := by
  induction tiers generalizing reached with
  | nil => exact hmore
  | cons tier rest ih =>
      obtain ⟨near, rest⟩ := h
      exact ⟨near, ih rest (hmore.mono (by omega))⟩

theorem flatMap {reached : Nat} {items : List Value} {tiers : Value → List Tier}
    (h : ∀ item, Gradual reached (tiers item)) : Gradual reached (items.flatMap tiers) := by
  induction items with
  | nil => exact trivial
  | cons item rest ih =>
      rw [List.flatMap_cons]
      exact (h item).append ih

theorem deeper {reached : Nat} {tiers : List Tier} (h : Gradual reached tiers) (levels : Nat) :
    Gradual (reached + levels) (tiers.map (Tier.deeper levels)) := by
  induction tiers generalizing reached with
  | nil => exact h
  | cons tier rest ih =>
      obtain ⟨near, rest⟩ := h
      refine ⟨by simp only [Tier.deeper]; omega, ?_⟩
      have below := ih rest
      rwa [← Nat.add_max_add_right] at below

theorem nested {path : String} {tiers : List Tier} (h : Gradual 0 tiers) :
    Gradual 0 (nestedTiers path tiers) :=
  ⟨Nat.le_refl _, h.deeper 1⟩

/-- The first tier beyond a limit is one level beyond it. -/
theorem first_beyond {reached limit : Nat} {before after : List Tier} {tier : Tier}
    (h : Gradual reached (before ++ tier :: after)) (start : reached ≤ limit)
    (within : ∀ earlier ∈ before, earlier.depth ≤ limit) (beyond : limit < tier.depth) :
    tier.depth = limit + 1 := by
  induction before generalizing reached with
  | nil =>
      obtain ⟨near, _⟩ := h
      omega
  | cons first rest ih =>
      obtain ⟨_, h⟩ := h
      have := within first List.mem_cons_self
      exact ih h (by omega) fun earlier member => within earlier (List.mem_cons_of_mem _ member)

end Tier.Gradual

mutual

theorem gradual_contentTiers (data : Value) (path : String) :
    ∀ content : List (String × Element), Tier.Gradual 0 (contentTiers data path content)
  | [] => trivial
  | (name, element) :: rest => by
      rw [contentTiers]
      exact (gradual_elementTiers name _ data element).append (gradual_contentTiers data path rest)

theorem gradual_elementTiers (name path : String) (data : Value) :
    ∀ element : Element, Tier.Gradual 0 (elementTiers name path data element)
  | .leaf _ => trivial
  | .attributed _ _ => trivial
  | .group children => by
      rw [elementTiers]
      exact (gradual_contentTiers data path children).nested
  | .sequence entries => by
      rw [elementTiers]
      split
      · exact .flatMap fun item => gradual_entriesTiers item path entries
      · exact trivial

theorem gradual_entriesTiers (item : Value) (path : String) :
    ∀ entries : List (List (String × Element)), Tier.Gradual 0 (entriesTiers item path entries)
  | [] => trivial
  | content :: rest => by
      rw [entriesTiers]
      exact (gradual_contentTiers item path content).nested.append
        (gradual_entriesTiers item path rest)

end

theorem Template.gradual_tiers (template : Template) (data : Value) :
    Tier.Gradual 0 (template.tiers data) :=
  ⟨Nat.zero_le _, gradual_contentTiers data "" template.elements⟩

/-! ## The tiers that a run enters -/

/-- The tier that is entered, if one is. -/
def Event.tier? : Event → Option Tier
  | .entered path depth => some ⟨path, depth⟩
  | _ => none

namespace Run

variable {α β : Type}

/-- The tiers that the run enters, in order. -/
def tiers (run : Run α) : List Tier :=
  run.events.filterMap Event.tier?

/-- The run enters these tiers in order: all of them if it succeeds, and else some from the
front. -/
def Enters (run : Run α) (tiers : List Tier) : Prop :=
  run.tiers <+: tiers ∧ ∀ a, run.result = .ok a → run.tiers = tiers

theorem enters_of_tiers {run : Run α} {tiers : List Tier} (h : run.tiers = tiers) :
    run.Enters tiers :=
  ⟨h ▸ List.prefix_rfl, fun _ _ => h⟩

theorem Enters.tiers_eq_nil {run : Run α} (h : run.Enters []) : run.tiers = [] :=
  List.prefix_nil.mp h.1

theorem tiers_bind_of_ok {run : Run α} {a : α} (h : run.result = .ok a) (next : α → Run β) :
    (run >>= next).tiers = run.tiers ++ (next a).tiers := by
  rw [bind_of_ok h, tiers, List.filterMap_append]
  rfl

theorem Enters.bind {run : Run α} {next : α → Run β} {tiers more : List Tier}
    (h : run.Enters tiers) (hnext : ∀ a, (next a).Enters more) :
    (run >>= next).Enters (tiers ++ more) := by
  obtain ⟨front, whole⟩ := h
  cases hr : run.result with
  | ok a =>
      obtain ⟨frontNext, wholeNext⟩ := hnext a
      rw [Enters, tiers_bind_of_ok hr, whole a hr, bind_of_ok hr]
      exact ⟨(List.prefix_append_right_inj tiers).mpr frontNext,
        fun b done => congrArg (tiers ++ ·) (wholeNext b done)⟩
  | error e =>
      rw [bind_of_error hr]
      exact ⟨front.trans (List.prefix_append _ _), fun b done => absurd done (by simp)⟩

theorem OnlyDegrades.enters {run : Run α} (h : run.OnlyDegrades) : run.Enters [] := by
  refine enters_of_tiers (List.filterMap_eq_nil_iff.mpr fun event member => ?_)
  obtain ⟨degradation, path, rfl⟩ := h event member
  rfl

end Run

theorem enters_write (markup : Xml.Markup) : (Run.write markup).Enters [] :=
  Run.enters_of_tiers rfl

theorem Scope.enters_enter (scope : Scope) (path : String) (depth : Nat) :
    (scope.enter path depth).Enters [⟨path, depth⟩] := by
  rcases scope.enter_cases path depth with ⟨_, _, _, tooDeep⟩ | entered
  · rw [tooDeep]
    exact ⟨List.nil_prefix, fun _ done => absurd done (by simp [Run.fail])⟩
  · rw [entered]
    exact Run.enters_of_tiers rfl

theorem enters_writeElement {name : String} {attributes : List Xml.Attribute} {inside : Run Unit}
    {tiers : List Tier} (h : inside.Enters tiers) :
    (writeElement name attributes inside).Enters tiers := by
  have around := (enters_write (.startTag name attributes)).bind fun _ =>
    h.bind fun _ => enters_write (.endTag name)
  rwa [List.append_nil] at around

theorem enters_forEachItem {action : Value → Run Unit} {tiers : Value → List Tier}
    (h : ∀ item, (action item).Enters (tiers item)) (items : List Value) :
    (forEachItem action items).Enters (items.flatMap tiers) := by
  induction items with
  | nil => exact Run.enters_of_tiers rfl
  | cons item rest ih =>
      rw [List.flatMap_cons]
      exact (h item).bind fun _ => ih

/-- A tier and what is inside it, as they are entered at a depth. -/
theorem map_deeper_nestedTiers (path : String) (depth : Nat) (inside : List Tier) :
    (nestedTiers path inside).map (Tier.deeper depth)
      = ⟨path, depth + 1⟩ :: inside.map (Tier.deeper (depth + 1)) := by
  rw [nestedTiers, Tier.map_deeper_deeper, List.map_cons, Tier.deeper, Nat.zero_add]

section Rendered

variable (scope : Scope)

mutual

/-- **The tiers that are entered are those that the template has for the data.** -/
theorem enters_renderElements (path : String) (depth : Nat) (data : Value) :
    ∀ content : List (String × Element), (renderElements scope path depth data content).Enters
      ((contentTiers data path content).map (Tier.deeper depth))
  | [] => Run.enters_of_tiers rfl
  | (name, element) :: rest => by
      rw [renderElements, contentTiers, List.map_append]
      exact (enters_renderElement name _ depth data element).bind fun _ =>
        enters_renderElements path depth data rest

theorem enters_renderElement (name path : String) (depth : Nat) (data : Value) :
    ∀ element : Element, (renderElement scope name path depth data element).Enters
      ((elementTiers name path data element).map (Tier.deeper depth))
  | .leaf expression => by
      rw [renderElement]
      exact (scope.evaluate_onlyDegrades path data expression).enters.bind fun _ =>
        enters_writeElement (enters_write _)
  | .attributed expression attributes => by
      rw [renderElement]
      exact (scope.evaluate_onlyDegrades path data expression).enters.bind fun _ =>
        (scope.attributes_onlyDegrades path data attributes).enters.bind fun _ =>
          enters_writeElement (enters_write _)
  | .group children => by
      rw [renderElement, elementTiers, map_deeper_nestedTiers]
      exact enters_writeElement ((scope.enters_enter path (depth + 1)).bind fun _ =>
        enters_renderElements path (depth + 1) data children)
  | .sequence entries => by
      by_cases found : ∃ items, data.lookup? name.toList = some (.list items)
      · obtain ⟨items, found⟩ := found
        rw [renderElement_of_list found, elementTiers_of_list found, List.map_flatMap]
        exact enters_writeElement (enters_forEachItem
          (fun item => enters_renderEntries path depth item entries) items)
      · rw [renderElement_of_no_list (not_exists.mp found),
          elementTiers_of_no_list (not_exists.mp found)]
        exact ((Run.unplaced_degrade _ _).locate path).enters

theorem enters_renderEntries (path : String) (depth : Nat) (item : Value) :
    ∀ entries : List (List (String × Element)),
      (renderEntries scope path (depth + 1) item entries).Enters
        ((entriesTiers item path entries).map (Tier.deeper depth))
  | [] => Run.enters_of_tiers rfl
  | content :: rest => by
      rw [renderEntries, entriesTiers, List.map_append, map_deeper_nestedTiers]
      exact (scope.enters_enter path (depth + 1)).bind fun _ =>
        (enters_renderElements path (depth + 1) item content).bind fun _ =>
          enters_renderEntries path depth item rest

end

end Rendered

end XmlTemplate
