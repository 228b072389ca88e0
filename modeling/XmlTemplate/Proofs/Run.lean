import XmlTemplate.Run

/-!
# Runs one after the other

What the result, the events and the output of a run are made of. A run that fails keeps what it
did before (`bind_of_error`), and one that succeeds did all its parts (`bind_eq_ok`). Two kinds of
runs come back in every proof about renders: those that write nothing (`Silent`), and those in which
nothing happens but degradations that have no place yet (`Unplaced`), which is what evaluating an
expression is like.
-/

namespace XmlTemplate.Run

variable {α β : Type}

@[simp]
theorem result_pure (a : α) : (pure a : Run α).result = .ok a := rfl

@[simp]
theorem events_pure (a : α) : (pure a : Run α).events = [] := rfl

/-- What follows a run that succeeds is run on its result. -/
theorem bind_of_ok {run : Run α} {a : α} (h : run.result = .ok a) (next : α → Run β) :
    run >>= next = ⟨run.events ++ (next a).events, (next a).result⟩ := by
  show Run.bind run next = _
  rw [Run.bind, h]

/-- What follows a run that fails does not happen. -/
theorem bind_of_error {run : Run α} {e : Error} (h : run.result = .error e) (next : α → Run β) :
    run >>= next = ⟨run.events, .error e⟩ := by
  show Run.bind run next = _
  rw [Run.bind, h]

theorem result_bind (run : Run α) (next : α → Run β) :
    (run >>= next).result = run.result.bind fun a => (next a).result := by
  cases hr : run.result with
  | ok a => rw [bind_of_ok hr, Except.bind]
  | error e => rw [bind_of_error hr, Except.bind]

/-- Two runs one after the other succeed only if both do. -/
theorem result_bind_eq_ok {run : Run α} {next : α → Run β} {b : β}
    (h : (run >>= next).result = .ok b) :
    ∃ a, run.result = .ok a ∧ (next a).result = .ok b := by
  cases hr : run.result with
  | ok a =>
      rw [bind_of_ok hr] at h
      exact ⟨a, rfl, h⟩
  | error e =>
      rw [bind_of_error hr] at h
      exact absurd h (by simp)

theorem result_bind_eq_ok_iff {run : Run α} {next : α → Run β} {b : β} :
    (run >>= next).result = .ok b ↔ ∃ a, run.result = .ok a ∧ (next a).result = .ok b := by
  constructor
  · exact result_bind_eq_ok
  · rintro ⟨a, first, second⟩
    rw [bind_of_ok first]
    exact second

/-- An event of two runs one after the other is an event of one of them. -/
theorem mem_events_bind {run : Run α} {next : α → Run β} {event : Event}
    (h : event ∈ (run >>= next).events) :
    event ∈ run.events ∨ ∃ a, run.result = .ok a ∧ event ∈ (next a).events := by
  cases hr : run.result with
  | ok a =>
      rw [bind_of_ok hr] at h
      rcases List.mem_append.mp h with h | h
      · exact Or.inl h
      · exact Or.inr ⟨a, rfl, h⟩
  | error e =>
      rw [bind_of_error hr] at h
      exact Or.inl h

/-- Behind a run that succeeds, the events are those of both runs. -/
theorem mem_events_bind_of_ok {run : Run α} {next : α → Run β} {a : α} {event : Event}
    (h : run.result = .ok a) :
    event ∈ (run >>= next).events ↔ event ∈ run.events ∨ event ∈ (next a).events := by
  rw [bind_of_ok h]
  exact List.mem_append

/-- What two runs write, if the first one succeeds. -/
theorem written_bind_of_ok {run : Run α} {a : α} (h : run.result = .ok a) (next : α → Run β) :
    (run >>= next).written = run.written ++ (next a).written := by
  rw [bind_of_ok h, written, List.flatMap_append]
  rfl

/-- Two runs that succeed one after the other: what they give and what they write. -/
theorem bind_eq_ok {run : Run α} {next : α → Run β} {b : β}
    (h : (run >>= next).result = .ok b) :
    ∃ a, run.result = .ok a ∧ (next a).result = .ok b
      ∧ (run >>= next).written = run.written ++ (next a).written := by
  obtain ⟨a, first, second⟩ := result_bind_eq_ok h
  exact ⟨a, first, second, written_bind_of_ok first next⟩

/-- Two runs one after the other of which one fails: the first one, or the second one behind a first
that succeeds. -/
theorem bind_eq_error {run : Run α} {next : α → Run β} {e : Error}
    (h : (run >>= next).result = .error e) :
    (run.result = .error e ∧ (run >>= next).written = run.written) ∨
    ∃ a, run.result = .ok a ∧ (next a).result = .error e
      ∧ (run >>= next).written = run.written ++ (next a).written := by
  cases hr : run.result with
  | ok a =>
      refine .inr ⟨a, rfl, ?_, written_bind_of_ok hr next⟩
      rwa [bind_of_ok hr] at h
  | error e' =>
      rw [bind_of_error hr] at h ⊢
      cases h
      exact .inl ⟨rfl, rfl⟩

@[simp]
theorem written_write (markup : Xml.Markup) : (write markup).written = markup.written :=
  List.append_nil _

/-- Locating a run changes no result that it succeeds with. -/
theorem result_locate_eq_ok {run : Run α} {path : String} {a : α} :
    (run.locate path).result = .ok a ↔ run.result = .ok a := by
  rw [locate]
  cases run.result with
  | ok b => exact Iff.rfl
  | error e =>
      constructor
      · intro h
        cases h
      · intro h
        cases h

/-! ## What a run fails with -/

/-- The error that the run ends with, if it fails. -/
def error? (run : Run α) : Option Error :=
  match run.result with
  | .ok _ => none
  | .error e => some e

theorem error?_eq_some_iff {run : Run α} {e : Error} :
    run.error? = some e ↔ run.result = .error e := by
  rw [error?]
  cases run.result with
  | ok a => simp
  | error e' => simp

theorem error?_eq_none_iff {run : Run α} :
    run.error? = none ↔ ∃ a, run.result = .ok a := by
  rw [error?]
  cases run.result with
  | ok a => simp
  | error e => simp

/-- Behind a run that succeeds, what follows may fail, always in the same way. -/
theorem error?_bind {run : Run α} {next : α → Run β} {fault? : Option Error}
    (h : ∀ a, (next a).error? = fault?) : (run >>= next).error? = run.error?.or fault? := by
  cases hr : run.result with
  | ok a =>
      have first : run.error? = none := error?_eq_none_iff.mpr ⟨a, hr⟩
      rw [first, Option.none_or, ← h a, bind_of_ok hr]
      rfl
  | error e =>
      have first : run.error? = some e := error?_eq_some_iff.mpr hr
      rw [first, Option.some_or, bind_of_error hr]
      rfl

theorem error?_bind_of_none {run : Run α} {next : α → Run β} (first : run.error? = none)
    {fault? : Option Error} (h : ∀ a, (next a).error? = fault?) :
    (run >>= next).error? = fault? := by
  rw [error?_bind h, first, Option.none_or]

/-- What only puts the result into another form does not fail. -/
theorem error?_bind_of_pure (run : Run α) (f : α → β) :
    (run >>= fun a => pure (f a)).error? = run.error? := by
  have nothing : ∀ a, (pure (f a) : Run β).error? = none := fun _ => rfl
  rw [error?_bind nothing, Option.or_none]

/-! ## What can be seen of a run -/

/-- How the run ends, and what it has written by then. -/
def outcome (run : Run α) : Except Error α × List Char :=
  (run.result, run.written)

theorem outcome_bind (run : Run α) (next : α → Run β) :
    (run >>= next).outcome = match run.result with
      | .ok a => ((next a).result, run.written ++ (next a).written)
      | .error e => (.error e, run.written) := by
  cases hr : run.result with
  | ok a => rw [outcome, written_bind_of_ok hr, bind_of_ok hr]
  | error e =>
      rw [bind_of_error hr]
      rfl

theorem outcome_bind_of_ok {run : Run α} {next : α → Run β} {a : α} {front back : List Char}
    {result : Except Error β} (first : run.outcome = (.ok a, front))
    (second : (next a).outcome = (result, back)) :
    (run >>= next).outcome = (result, front ++ back) := by
  obtain ⟨ends, wrote⟩ := Prod.mk.inj first
  obtain ⟨ends', wrote'⟩ := Prod.mk.inj second
  rw [outcome_bind, ends]
  dsimp only
  rw [ends', wrote, wrote']

theorem outcome_bind_congr_left {run run' : Run α} (h : run.outcome = run'.outcome)
    (next : α → Run β) : (run >>= next).outcome = (run' >>= next).outcome := by
  obtain ⟨ends, wrote⟩ := Prod.mk.inj h
  rw [outcome_bind, outcome_bind, ends, wrote]

theorem outcome_bind_congr_right (run : Run α) {next next' : α → Run β}
    (h : ∀ a, (next a).outcome = (next' a).outcome) :
    (run >>= next).outcome = (run >>= next').outcome := by
  rw [outcome_bind, outcome_bind]
  cases run.result with
  | ok a =>
      obtain ⟨ends, wrote⟩ := Prod.mk.inj (h a)
      simp only [ends, wrote]
  | error e => rfl

/-! ## Runs that write nothing -/

/-- Nothing is written. -/
def Silent (run : Run α) : Prop :=
  run.written = []

theorem silent_of_no_events {run : Run α} (h : run.events = []) : run.Silent := by
  rw [Silent, written, h]
  rfl

theorem Silent.outcome {run : Run α} (h : run.Silent) : run.outcome = (run.result, []) := by
  rw [Run.outcome, h]

/-- Behind a run that writes nothing, only what follows is written. -/
theorem Silent.bind_eq_ok {run : Run α} {next : α → Run β} {b : β} (silent : run.Silent)
    (h : (run >>= next).result = .ok b) :
    ∃ a, run.result = .ok a ∧ (next a).result = .ok b
      ∧ (run >>= next).written = (next a).written := by
  obtain ⟨a, first, second, wrote⟩ := Run.bind_eq_ok h
  refine ⟨a, first, second, ?_⟩
  rw [wrote, silent, List.nil_append]

/-- Behind a run that writes nothing, what follows may fail; else nothing is written at all. -/
theorem Silent.bind_eq_error {run : Run α} {next : α → Run β} {e : Error} (silent : run.Silent)
    (h : (run >>= next).result = .error e) :
    (run.result = .error e ∧ (run >>= next).written = []) ∨
    ∃ a, run.result = .ok a ∧ (next a).result = .error e
      ∧ (run >>= next).written = (next a).written := by
  rcases Run.bind_eq_error h with ⟨failed, wrote⟩ | ⟨a, first, failed, wrote⟩
  · exact .inl ⟨failed, wrote.trans silent⟩
  · refine .inr ⟨a, first, failed, ?_⟩
    rw [wrote, silent, List.nil_append]

/-! ## Runs in which only degradations happen -/

/-- All that happens are degradations that have no place yet. -/
def Unplaced (run : Run α) : Prop :=
  ∀ event ∈ run.events, ∃ degradation, event = .degraded degradation none

theorem unplaced_pure (a : α) : (pure a : Run α).Unplaced := by
  intro event member
  exact absurd member (by simp)

theorem unplaced_degrade (mode : Mode) (degradation : Degradation) :
    (degrade mode degradation).Unplaced := by
  intro event member
  cases mode with
  | lenient => exact ⟨degradation, by simpa [degrade, emit] using member⟩
  | strict => exact absurd member (by simp [degrade, fail])

theorem Unplaced.bind {run : Run α} {next : α → Run β} (h : run.Unplaced)
    (hnext : ∀ a, (next a).Unplaced) : (run >>= next).Unplaced := by
  intro event member
  rcases mem_events_bind member with member | ⟨a, _, member⟩
  · exact h event member
  · exact hnext a event member

/-- All that happens are degradations, whether they have a place or not. -/
def OnlyDegrades (run : Run α) : Prop :=
  ∀ event ∈ run.events, ∃ degradation path, event = .degraded degradation path

theorem onlyDegrades_pure (a : α) : (pure a : Run α).OnlyDegrades := by
  intro event member
  exact absurd member (by simp)

theorem OnlyDegrades.bind {run : Run α} {next : α → Run β} (h : run.OnlyDegrades)
    (hnext : ∀ a, (next a).OnlyDegrades) : (run >>= next).OnlyDegrades := by
  intro event member
  rcases mem_events_bind member with member | ⟨a, _, member⟩
  · exact h event member
  · exact hnext a event member

theorem Unplaced.locate {run : Run α} (h : run.Unplaced) (path : String) :
    (run.locate path).OnlyDegrades := by
  intro event member
  obtain ⟨original, happened, rfl⟩ := List.mem_map.mp member
  obtain ⟨degradation, rfl⟩ := h original happened
  exact ⟨degradation, _, rfl⟩

theorem OnlyDegrades.silent {run : Run α} (h : run.OnlyDegrades) : run.Silent := by
  refine List.flatMap_eq_nil_iff.mpr (fun event member => ?_)
  obtain ⟨degradation, path, rfl⟩ := h event member
  rfl

end XmlTemplate.Run
