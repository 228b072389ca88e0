import XmlTemplate.Stream
import XmlTemplate.Proofs.Failure
import XmlTemplate.Proofs.Stop
import XmlTemplate.Proofs.Tier

/-!
# The guard of depth

A limit of depth does nothing but stop a render at the first tier that lies deeper: the limited
render is the unlimited one, stopped there (`Template.renderWithin_some`). So it is the same render as
long as no tier lies deeper. That the error names the limit plus one as the level is due to tiers
going down level by level, and that a render in lenient mode without a limit has nothing to fail
with is due to `Template.render_failsOnly`. `depth_guard_exact` puts this together.
-/

namespace XmlTemplate

/-- The error that a limit of depth makes of an event: of entering a tier beyond the limit. -/
def Event.tooDeep? (limit : Nat) : Event → Option Error
  | .entered path depth =>
    if limit < depth then some (.located (.depthExceeded limit) path) else none
  | _ => none

/-! ## Events within the limit -/

section Within

variable {α : Type} {limit : Nat} {events : List Event}

theorem Event.eq_entered_of_tooDeep? {event : Event} {e : Error}
    (h : event.tooDeep? limit = some e) :
    ∃ path depth, event = .entered path depth ∧ limit < depth
      ∧ e = .located (.depthExceeded limit) path := by
  cases event with
  | entered path depth =>
      rw [tooDeep?] at h
      split at h
      · cases h
        exact ⟨path, depth, rfl, ‹_›, rfl⟩
      · cases h
  | wrote | degraded | skippedAttribute | compiled | rendering => cases h

/-- A limit finds fault with no event exactly if no tier lies beyond it. -/
theorem forall_depth_le_iff :
    (∀ tier ∈ events.filterMap Event.tier?, tier.depth ≤ limit) ↔
      ∀ event ∈ events, event.tooDeep? limit = none := by
  constructor
  · intro within event member
    cases fault : event.tooDeep? limit with
    | none => rfl
    | some e =>
        obtain ⟨path, depth, rfl, beyond, _⟩ := Event.eq_entered_of_tooDeep? fault
        have := within ⟨path, depth⟩ (List.mem_filterMap.mpr ⟨_, member, rfl⟩)
        exact absurd beyond (Nat.not_lt.mpr this)
  · intro free tier member
    obtain ⟨event, member, found⟩ := List.mem_filterMap.mp member
    have fault := free event member
    cases event with
    | entered path depth =>
        cases found
        rw [Event.tooDeep?] at fault
        split at fault
        · cases fault
        · exact Nat.not_lt.mp ‹_›
    | wrote | degraded | skippedAttribute | compiled | rendering => cases found

/-- A limit that some tier lies beyond stops the run at the first of these. If tiers go down level
by level, that one is a single level beyond. -/
theorem Run.stopAt_beyond {run : Run α} {tiers : List Tier} (front : run.tiers <+: tiers)
    (gradual : Tier.Gradual 0 tiers) (beyond : ¬∀ tier ∈ run.tiers, tier.depth ≤ limit) :
    ∃ before path after, run.tiers = before ++ ⟨path, limit + 1⟩ :: after
      ∧ (∀ tier ∈ before, tier.depth ≤ limit)
      ∧ (run.stopAt (Event.tooDeep? limit)).result = .error (.located (.depthExceeded limit) path)
      ∧ (run.stopAt (Event.tooDeep? limit)).tiers = before
      ∧ (run.stopAt (Event.tooDeep? limit)).events <+: run.events := by
  rcases Run.fault_cases (Event.tooDeep? limit) run.events with
    free | ⟨before, event, after, e, split, free, fault⟩
  · exact absurd (forall_depth_le_iff.mpr free) beyond
  obtain ⟨path, depth, rfl, deep, rfl⟩ := Event.eq_entered_of_tooDeep? fault
  have entered : run.tiers = before.filterMap Event.tier?
      ++ ⟨path, depth⟩ :: after.filterMap Event.tier? := by
    rw [Run.tiers, split, List.filterMap_append, List.filterMap_cons]
    rfl
  have within := forall_depth_le_iff.mpr free
  have next : depth = limit + 1 := by
    obtain ⟨rest, rfl⟩ := front
    rw [entered, List.append_assoc, List.cons_append] at gradual
    exact gradual.first_beyond (Nat.zero_le _) within deep
  subst next
  refine ⟨_, path, _, entered, within, ?_⟩
  rw [Run.stopAt_of_split split free fault, split]
  exact ⟨rfl, rfl, List.prefix_append _ _⟩

/-- A run that enters nothing is not stopped by a limit. -/
theorem Run.Enters.stopAt_eq {run : Run α} (h : run.Enters []) :
    run.stopAt (Event.tooDeep? limit) = run := by
  refine Run.stopAt_of_none (forall_depth_le_iff.mp fun tier member => ?_)
  rw [← Run.tiers, h.tiers_eq_nil] at member
  exact absurd member (by simp)

end Within

/-! ## The limited render -/

section Limited

variable (mode : Mode) (table : Variables) (limit : Nat)

theorem Scope.enter_limited (path : String) (depth : Nat) :
    Scope.enter ⟨mode, table, some limit⟩ path depth
      = (Scope.enter ⟨mode, table, none⟩ path depth).stopAt (Event.tooDeep? limit) := by
  rw [Scope.enter, Scope.enter]
  dsimp only
  split
  · have beyond : Event.tooDeep? limit (.entered path depth)
        = some (.located (.depthExceeded limit) path) := if_pos ‹_›
    have first : (Run.emit (.entered path depth)).events = [] ++ .entered path depth :: [] := rfl
    exact (Run.stopAt_of_split first (by simp) beyond).symm
  · have within : Event.tooDeep? limit (.entered path depth) = none := if_neg ‹_›
    exact (Run.stopAt_emit within).symm

/-- Nothing is evaluated differently under a limit. -/
theorem Scope.attributes_limited (path : String) (data : Value) (attributes : List Attribute) :
    Scope.attributes ⟨mode, table, some limit⟩ path data attributes
      = Scope.attributes ⟨mode, table, none⟩ path data attributes := by
  induction attributes with
  | nil => rfl
  | cons first rest ih =>
      rw [Scope.attributes, Scope.attributes, ih]
      rfl

theorem comparison_limited :
    Comparison ⟨mode, table, none⟩ ⟨mode, table, some limit⟩ (· = ·)
      fun run run' => run' = run.stopAt (Event.tooDeep? limit) where
  nothing := rfl
  seq := by
    rintro run _ next _ rfl rfl
    exact (Run.stopAt_bind run fun _ => next).symm
  write _ := (Run.stopAt_emit rfl).symm
  enter := Scope.enter_limited mode table limit
  leaf name path depth expression := by
    rintro data _ rfl
    rw [(enters_renderElement ⟨mode, table, none⟩ name path depth data (.leaf expression)).stopAt_eq,
      renderElement, renderElement]
    rfl
  attributed name path depth expression attributes := by
    rintro data _ rfl
    rw [(enters_renderElement ⟨mode, table, none⟩ name path depth data
      (.attributed expression attributes)).stopAt_eq, renderElement, renderElement]
    simp only [Scope.attributes_limited]
    rfl
  sequence name path depth entries := by
    rintro data _ rfl
    rcases lists_or_none data name with lists | noList
    · exact .inl lists
    · have enters := enters_renderElement ⟨mode, table, none⟩ name path depth data
        (.sequence entries)
      rw [elementTiers_of_no_list noList] at enters
      refine .inr ?_
      rw [enters.stopAt_eq, renderElement_of_no_list noList, renderElement_of_no_list noList]

end Limited

section Render

variable (template : Template) (mode : Mode) (data : Value) (runtime : Declarations)

/-- **The limited render is the unlimited one, stopped at the first tier beyond the limit.** -/
theorem Template.renderWithin_some (limit : Nat) :
    template.renderWithin mode data runtime (some limit)
      = (template.renderWithin mode data runtime none).stopAt (Event.tooDeep? limit) := by
  rw [renderWithin_eq, renderWithin_eq, Run.stopAt_bind,
    (template.table_onlyDegrades mode runtime).enters.stopAt_eq]
  congr 1
  funext table
  rw [Run.stopAt_bind, Run.stopAt_emit rfl]
  congr 1
  funext _
  exact (comparison_limited mode table limit).body template rfl

theorem Template.enters_body (scope : Scope) (template : Template) (data : Value) :
    (template.body scope data).Enters (template.tiers data) := by
  have inside := (scope.enters_enter "" 0).bind fun _ =>
    enters_renderElements scope "" 0 data template.elements
  have same : (contentTiers data "" template.elements).map (Tier.deeper 0)
      = contentTiers data "" template.elements := List.map_id'' (fun _ => rfl) _
  rw [same] at inside
  exact enters_writeElement inside

/-- A render enters the tiers of the template. -/
theorem Template.enters_renderWithin (limit : Option Nat) :
    (template.renderWithin mode data runtime limit).Enters (template.tiers data) := by
  rw [renderWithin_eq]
  exact (template.table_onlyDegrades mode runtime).enters.bind fun table =>
    (show (Run.emit (.rendering template.root table.size)).Enters [] from
      Run.enters_of_tiers rfl).bind fun _ => enters_body _ template data

/-- What rendering data can fail with: a degradation in strict mode, or the limit. -/
theorem Template.cause_of_renderWithin {limit : Option Nat} {e : Error}
    (failed : (template.renderWithin mode data runtime limit).result = .error e) :
    (mode = .strict ∧ ∃ degradation, e.cause = .degraded degradation) ∨
      ∃ deepest, limit = some deepest ∧ e.cause = .depthExceeded deepest := by
  have allowed := template.render_failsOnly mode _ e failed
  generalize e.cause = cause at allowed ⊢
  cases allowed with
  | unconvertible unconverted => cases unconverted
  | degraded degradation strict => exact .inl ⟨strict, degradation, rfl⟩
  | tooDeep limited => exact .inr ⟨_, limited, rfl⟩

end Render

/-! ## The guard -/

theorem Run.written_prefix {α : Type} {run run' : Run α} (h : run.events <+: run'.events) :
    run.written <+: run'.written := by
  obtain ⟨rest, split⟩ := h
  rw [written, written, ← split, List.flatMap_append]
  exact List.prefix_append _ _

/--
**The guard of depth is exact, and all that a render in lenient mode can fail with.**

A render without a limit enters the tiers of the template in the order of the document, all of them
unless a degradation stops it in strict mode. If none of those that it enters lies beyond a limit,
the render with that limit is the same. Otherwise that one fails where it comes to the first of
them, which is one level beyond, and what it has done until then is the front of what the unlimited
render does. So a limit that is enough may be raised, and in lenient mode a render without a limit
always succeeds.
-/
theorem depth_guard_exact (template : Template) (mode : Mode) (data : Value)
    (runtime : Declarations) :
    let unlimited := template.renderWithin mode data runtime none
    let limited := fun limit => template.renderWithin mode data runtime (some limit)
    (unlimited.tiers = template.tiers data ∨
      unlimited.tiers <+: template.tiers data ∧ mode = .strict ∧
        ∃ degradation path, unlimited.result = .error ⟨.degraded degradation, path⟩) ∧
    (∀ limit, (∀ tier ∈ unlimited.tiers, tier.depth ≤ limit) → limited limit = unlimited) ∧
    (∀ limit, ¬(∀ tier ∈ unlimited.tiers, tier.depth ≤ limit) →
      ∃ before path after e, unlimited.tiers = before ++ ⟨path, limit + 1⟩ :: after
        ∧ (∀ tier ∈ before, tier.depth ≤ limit)
        ∧ (limited limit).result = .error e
        ∧ e.cause.message = s!"reached maximum element depth ({limit})"
        ∧ e.path = Path.place? path
        ∧ (limited limit).tiers = before
        ∧ (limited limit).events <+: unlimited.events
        ∧ (limited limit).written <+: unlimited.written) ∧
    (∀ limit more, limit ≤ more → (limited limit).result = .ok () →
      limited more = limited limit) ∧
    (mode = .lenient → (∃ xml, unlimited.text = .ok xml) ∧
      ∀ limit e, (limited limit).result = .error e → e.cause = .depthExceeded limit) := by
  intro unlimited limited
  have stopped : ∀ limit, limited limit = unlimited.stopAt (Event.tooDeep? limit) :=
    template.renderWithin_some mode data runtime
  obtain ⟨front, whole⟩ := template.enters_renderWithin mode data runtime none
  have same : ∀ limit, (∀ tier ∈ unlimited.tiers, tier.depth ≤ limit) →
      limited limit = unlimited := by
    intro limit within
    rw [stopped]
    exact Run.stopAt_of_none (forall_depth_le_iff.mp within)
  have deep := fun limit => @Run.stopAt_beyond Unit limit _ _ front (template.gradual_tiers data)
  refine ⟨?_, same, ?_, ?_, ?_⟩
  · cases ended : unlimited.result with
    | ok done => exact .inl (whole done ended)
    | error e =>
        obtain ⟨cause, path⟩ := e
        rcases template.cause_of_renderWithin mode data runtime ended with
          ⟨strict, degradation, rfl⟩ | ⟨_, limited, _⟩
        · exact .inr ⟨front, strict, degradation, path, rfl⟩
        · cases limited
  · intro limit beyond
    obtain ⟨before, path, after, split, within, failed, entered, events⟩ := deep limit beyond
    rw [stopped]
    exact ⟨before, path, after, _, split, within, failed, rfl, rfl, entered, events,
      Run.written_prefix events⟩
  · intro limit more le success
    by_cases within : ∀ tier ∈ unlimited.tiers, tier.depth ≤ limit
    · rw [same limit within]
      exact same more fun tier member => Nat.le_trans (within tier member) le
    · obtain ⟨_, _, _, _, _, failed, _⟩ := deep limit within
      rw [stopped, failed] at success
      cases success
  · rintro rfl
    constructor
    · cases ended : unlimited.result with
      | ok done =>
          refine ⟨String.ofList unlimited.written, ?_⟩
          rw [Run.text, ended]
          rfl
      | error e =>
          rcases template.cause_of_renderWithin _ data runtime ended with
            ⟨strict, _⟩ | ⟨_, limited, _⟩
          · cases strict
          · cases limited
    · intro limit e failed
      rcases template.cause_of_renderWithin _ data runtime failed with
        ⟨strict, _⟩ | ⟨_, limited, cause⟩
      · cases strict
      · cases limited
        exact cause

/-- A template with a group in a sequence. -/
def nestedTemplate : Template where
  root := "r"
  declarations := []
  globals := .empty
  elements := [("s", .sequence [[("g", .group [("b", .leaf (.string "${x}"))])]])]

/-- Data with one item for it. -/
def nestedData : Value :=
  .map [("s", .list [.map [("x", .string "1")]])]

/-- The group lies at the second level, so two levels are enough and one is not. -/
theorem depth_guard_exact_nested :
    nestedTemplate.tiers nestedData = [⟨"", 0⟩, ⟨"s", 1⟩, ⟨"s.g", 2⟩] ∧
    (∃ e, (nestedTemplate.renderWithin .lenient nestedData [] (some 1)).result = .error e
      ∧ e.cause.message = "reached maximum element depth (1)" ∧ e.path = some "s.g") ∧
    nestedTemplate.renderWithin .lenient nestedData [] (some 2)
      = nestedTemplate.renderWithin .lenient nestedData [] none := by
  have tiers : nestedTemplate.tiers nestedData = [⟨"", 0⟩, ⟨"s", 1⟩, ⟨"s.g", 2⟩] := by
    decide +kernel
  have entered : (nestedTemplate.renderWithin .lenient nestedData [] none).tiers
      = [⟨"", 0⟩, ⟨"s", 1⟩, ⟨"s.g", 2⟩] := by
    decide +kernel
  obtain ⟨_, same, deep, _⟩ := depth_guard_exact nestedTemplate .lenient nestedData []
  rw [entered] at same deep
  obtain ⟨before, path, after, e, split, within, failed, message, placed, _⟩ :=
    deep 1 (by decide)
  have member : (⟨path, 2⟩ : Tier) ∈ before ++ ⟨path, 2⟩ :: after := by simp
  rw [← split] at member
  have last : path = "s.g" := by simpa using member
  subst last
  exact ⟨tiers, ⟨e, failed, message, placed⟩, same 2 (by decide)⟩

end XmlTemplate
