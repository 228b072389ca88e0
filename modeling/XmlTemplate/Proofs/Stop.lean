import XmlTemplate.Proofs.Run

/-!
# Runs that stop early

What becomes of a run that is stopped at the first event that some test finds fault with. Stopping
goes through every way of putting runs together (`stopAt_bind`, `stopAt_locate`), so that a run is
stopped by stopping its parts. Two renders that differ only in what they refuse to pass over are
compared in this way.
-/

namespace XmlTemplate.Run

variable {α β : Type}

/-- The run up to the first event that the test finds fault with. That event no longer happens, and
the fault is what the run ends with. -/
def stopAt (fault? : Event → Option Error) (run : Run α) : Run α :=
  match run.events.findSome? fault? with
  | none => run
  | some e => ⟨run.events.takeWhile fun event => (fault? event).isNone, .error e⟩

variable {fault? : Event → Option Error}

theorem stopAt_of_none {run : Run α} (h : ∀ event ∈ run.events, fault? event = none) :
    run.stopAt fault? = run := by
  rw [stopAt, List.findSome?_eq_none_iff.mpr h]

/-- The events before the first fault are the ones that stay. -/
theorem stopAt_of_split {run : Run α} {before after : List Event} {event : Event} {e : Error}
    (split : run.events = before ++ event :: after) (free : ∀ x ∈ before, fault? x = none)
    (fault : fault? event = some e) : run.stopAt fault? = ⟨before, .error e⟩ := by
  have first : run.events.findSome? fault? = some e :=
    List.findSome?_eq_some_iff.mpr ⟨before, event, after, split, fault, free⟩
  rw [stopAt, first, split, List.takeWhile_append_of_pos (by simpa using free)]
  simp [fault]

/-- A run has no fault in it, or it has a first one. -/
theorem fault_cases (fault? : Event → Option Error) (events : List Event) :
    (∀ event ∈ events, fault? event = none) ∨
    ∃ before event after e, events = before ++ event :: after
      ∧ (∀ x ∈ before, fault? x = none) ∧ fault? event = some e := by
  cases hf : events.findSome? fault? with
  | none => exact Or.inl (List.findSome?_eq_none_iff.mp hf)
  | some e =>
      obtain ⟨before, event, after, split, fault, free⟩ := List.findSome?_eq_some_iff.mp hf
      exact Or.inr ⟨before, event, after, e, split, free, fault⟩

theorem stopAt_pure (a : α) : (pure a : Run α).stopAt fault? = pure a := rfl

theorem stopAt_fail (e : Error) : (fail e : Run α).stopAt fault? = fail e := rfl

theorem stopAt_ofExcept (result : Except Error α) :
    (ofExcept result).stopAt fault? = ofExcept result := rfl

/-- An event without a fault stays. -/
theorem stopAt_emit {event : Event} (h : fault? event = none) :
    (emit event).stopAt fault? = emit event :=
  stopAt_of_none (by simp [emit, h])

/-- The second run is stopped only if the first one comes to its end. -/
theorem stopAt_bind (run : Run α) (next : α → Run β) :
    (run >>= next).stopAt fault? = run.stopAt fault? >>= fun a => (next a).stopAt fault? := by
  rcases fault_cases fault? run.events with free | ⟨before, event, after, e, split, free, fault⟩
  · rw [stopAt_of_none free]
    cases hr : run.result with
    | error e =>
        rw [bind_of_error hr, bind_of_error hr]
        exact stopAt_of_none free
    | ok a =>
        rw [bind_of_ok hr, bind_of_ok hr]
        rcases fault_cases fault? (next a).events with
          free' | ⟨before, event, after, e, split, free', fault⟩
        · rw [stopAt_of_none free']
          refine stopAt_of_none (fun event member => ?_)
          exact (List.mem_append.mp member).elim (free event) (free' event)
        · rw [stopAt_of_split split free' fault]
          have split' : run.events ++ (next a).events
              = (run.events ++ before) ++ event :: after := by
            rw [split, List.append_assoc]
          refine stopAt_of_split split' (fun x member => ?_) fault
          exact (List.mem_append.mp member).elim (free x) (free' x)
  · -- stopped in the first run, whatever that run ends with
    rw [stopAt_of_split split free fault]
    cases hr : run.result with
    | error e' =>
        rw [bind_of_error hr]
        exact stopAt_of_split split free fault
    | ok a =>
        rw [bind_of_ok hr]
        have split' : run.events ++ (next a).events
            = before ++ event :: (after ++ (next a).events) := by
          rw [split, List.append_assoc, List.cons_append]
        exact stopAt_of_split split' free fault

/-- A test that sees the place of an event in its fault may be asked before or after the event gets
its place. -/
theorem stopAt_locate {path : String}
    (h : ∀ event, fault? (event.locate path) = (fault? event).map (Error.locate path))
    (run : Run α) : (run.locate path).stopAt fault? = (run.stopAt fault?).locate path := by
  have keeps : ∀ events : List Event, (∀ x ∈ events, fault? x = none) →
      ∀ x ∈ events.map (Event.locate path), fault? x = none := by
    intro events free x member
    obtain ⟨event, memberOf, rfl⟩ := List.mem_map.mp member
    rw [h, free event memberOf]
    rfl
  rcases fault_cases fault? run.events with free | ⟨before, event, after, e, split, free, fault⟩
  · rw [stopAt_of_none free]
    exact stopAt_of_none (keeps _ free)
  · rw [stopAt_of_split split free fault]
    have split' : (run.locate path).events
        = before.map (Event.locate path)
          ++ event.locate path :: after.map (Event.locate path) := by
      rw [locate, split, List.map_append, List.map_cons]
    have fault' : fault? (event.locate path) = some (e.locate path) := by
      rw [h, fault]
      rfl
    exact stopAt_of_split split' (keeps _ free) fault'

/-- A stopped run that succeeds was not stopped. -/
theorem stopAt_eq_self {run : Run α} {a : α} (h : (run.stopAt fault?).result = .ok a) :
    run.stopAt fault? = run := by
  rcases fault_cases fault? run.events with free | ⟨before, event, after, e, split, free, fault⟩
  · exact stopAt_of_none free
  · rw [stopAt_of_split split free fault] at h
    exact absurd h (by simp)

end XmlTemplate.Run
