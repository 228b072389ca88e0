import XmlTemplate.Error
import XmlTemplate.Xml.Markup

/-!
# Runs

A compilation or a render is a run: the events that happen in it, in order, and the result or the
error it ends with. What has been written and what has been noted can be read off the events, also
of a run that fails.
-/

namespace XmlTemplate

/-- What becomes of degradations. -/
inductive Mode where
  /-- They are passed over. -/
  | lenient
  /-- The first of them is an error. -/
  | strict
deriving Repr, DecidableEq

/-- How much attention a note asks for. -/
inductive Level where
  | trace
  | debug
  | warn
deriving Repr, DecidableEq

/-- Why an attribute is left out of the template. -/
inductive AttributeFault where
  | notMapping
  | unnamed
deriving Repr, DecidableEq

/-- What happens in a run. -/
inductive Event where
  | wrote (markup : Xml.Markup)
  /-- A degradation was passed over, in the element with the given path. -/
  | degraded (degradation : Degradation) (path : Option String)
  /-- A level of elements was entered; the root's own level has depth zero. -/
  | entered (path : String) (depth : Nat)
  | skippedAttribute (fault : AttributeFault) (path : String)
  | compiled (root : String) (elements declarations : Nat)
  | rendering (root : String) (names : Nat)
deriving DecidableEq

namespace Event

/-- What the event writes. -/
def written : Event → List Char
  | .wrote markup => markup.written
  | _ => []

/-- What the event notes. -/
def note? : Event → Option (Level × String)
  | .wrote _ => none
  | .entered _ _ => none
  | .degraded degradation _ => degradation.note?.map (Level.trace, ·)
  | .skippedAttribute .notMapping path =>
    some (.warn, s!"skipping attribute that is not a mapping at `{path}`")
  | .skippedAttribute .unnamed path =>
    some (.warn, s!"skipping attribute without a name at `{path}`")
  | .compiled root elements declarations =>
    some (.debug,
      s!"compiled template `{root}` with {elements} elements and {declarations} variables")
  | .rendering root names =>
    some (.debug, s!"rendering template `{root}` with {names} variables")

/-- Gives a degradation the path of the element it happened in, unless it has one. -/
def locate (path : String) : Event → Event
  | .degraded degradation known => .degraded degradation (known.or (Path.place? path))
  | event => event

end Event

/-- The events of a run and what it ends with. -/
structure Run (α : Type) where
  events : List Event := []
  result : Except Error α

namespace Run

variable {α β : Type}

/-- The run in which nothing happens. -/
protected def pure (a : α) : Run α :=
  { result := .ok a }

/-- One run after the other; the second does not start if the first fails. -/
protected def bind (run : Run α) (next : α → Run β) : Run β :=
  match run.result with
  | .ok a => ⟨run.events ++ (next a).events, (next a).result⟩
  | .error e => ⟨run.events, .error e⟩

instance : Monad Run where
  pure := Run.pure
  bind := Run.bind

/-- The run that fails at once. -/
def fail (e : Error) : Run α :=
  { result := .error e }

/-- The run of one event. -/
def emit (event : Event) : Run Unit :=
  ⟨[event], .ok ()⟩

/-- Writes a piece of markup. -/
def write (markup : Xml.Markup) : Run Unit :=
  emit (.wrote markup)

/-- Passes over the degradation, or fails in strict mode. -/
def degrade (mode : Mode) (degradation : Degradation) : Run Unit :=
  match mode with
  | .lenient => emit (.degraded degradation none)
  | .strict => fail ⟨.degraded degradation, none⟩

/-- Gives the degradations and the error of a run the path of an element. -/
def locate (path : String) (run : Run α) : Run α :=
  ⟨run.events.map (Event.locate path), run.result.mapError (Error.locate path)⟩

/-- The run with the given result. -/
def ofExcept (result : Except Error α) : Run α :=
  { result }

/-- Everything written, up to the end or the error. -/
def written (run : Run α) : List Char :=
  run.events.flatMap Event.written

/-- Everything noted, in order. -/
def notes (run : Run α) : List (Level × String) :=
  run.events.filterMap Event.note?

/-! ## Laws -/

theorem bind_pure_self (run : Run α) : Run.bind run Run.pure = run := by
  obtain ⟨events, result⟩ := run
  cases result <;> simp [Run.bind, Run.pure]

theorem pure_bind_apply (a : α) (next : α → Run β) : Run.bind (Run.pure a) next = next a := by
  simp [Run.bind, Run.pure]

theorem bind_bind {γ : Type} (run : Run α) (next : α → Run β) (last : β → Run γ) :
    Run.bind (Run.bind run next) last = Run.bind run fun a => Run.bind (next a) last := by
  obtain ⟨events, result⟩ := run
  cases result with
  | error e => simp [Run.bind]
  | ok a =>
    simp only [Run.bind]
    cases (next a).result <;> simp

instance : LawfulMonad Run :=
  LawfulMonad.mk' Run bind_pure_self pure_bind_apply bind_bind

end Run

end XmlTemplate
