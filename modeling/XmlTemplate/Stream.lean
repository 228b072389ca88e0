import XmlTemplate.Run

/-!
# Streams

A run can be read for what it writes all at once, or its output can be sent on piece by piece while
it happens. A receiver takes bytes as long as it has room. When it refuses some, its reason is kept
aside and the run fails on the spot with a format error; only in the end the reason takes the place
of that error.
-/

namespace XmlTemplate

/-- The UTF-8 bytes of a text. -/
def utf8 (s : List Char) : List UInt8 :=
  s.flatMap String.utf8EncodeChar

/-! ## Receivers -/

/-- Something that bytes are sent to. -/
structure Receiver where
  /-- How many more bytes it takes. -/
  room : Nat
  /-- What it says when it takes no more. -/
  reason : String
  taken : List UInt8 := []
  /-- How often it has refused bytes. -/
  refusals : Nat := 0
deriving DecidableEq

namespace Receiver

/-- Offers bytes once. The receiver takes as many as it has room for, and refuses if it has none. -/
def offer (receiver : Receiver) (bytes : List UInt8) : Except String Nat × Receiver :=
  if receiver.room = 0 then
    (.error receiver.reason, { receiver with refusals := receiver.refusals + 1 })
  else
    let count := min receiver.room bytes.length
    (.ok count, { receiver with
      room := receiver.room - count
      taken := receiver.taken ++ bytes.take count })

/-- What is not refused is not nothing. -/
theorem offer_pos {receiver after : Receiver} {bytes : List UInt8} {count : Nat}
    (h : receiver.offer bytes = (.ok count, after)) (ne : bytes ≠ []) : 0 < count := by
  unfold offer at h
  split at h
  · cases h
  · cases h
    have := List.length_pos_iff.mpr ne
    omega

/-- Offers the bytes until all are taken or what is left is refused. -/
def send (receiver : Receiver) : List UInt8 → Except String Unit × Receiver
  | [] => (.ok (), receiver)
  | first :: rest =>
    match h : receiver.offer (first :: rest) with
    | (.error reason, after) => (.error reason, after)
    | (.ok count, after) =>
      have := offer_pos h (by simp)
      after.send ((first :: rest).drop count)
termination_by bytes => bytes.length
decreasing_by
  rw [List.length_drop, List.length_cons]
  omega

end Receiver

/-! ## Sinks -/

/-- The characters of an event, in the pieces in which they are written. -/
def Event.pieces : Event → List (List Char)
  | .wrote markup => markup.pieces
  | _ => []

/-- What a run writes to. -/
structure Sink where
  receiver : Receiver
  /-- The reason that the receiver gave for a refusal. -/
  refusal : Option String := none

namespace Sink

/-- Writes a text. A refusal is kept aside and is a format error here. -/
def write (sink : Sink) (s : List Char) : Except Error Unit × Sink :=
  match sink.receiver.send (utf8 s) with
  | (.ok (), receiver) => (.ok (), { sink with receiver })
  | (.error reason, receiver) =>
    (.error ⟨.formatFailed, none⟩, { receiver, refusal := some reason })

/-- Writes texts, up to the first that is not taken as a whole. -/
def writeAll (sink : Sink) : List (List Char) → Except Error Unit × Sink
  | [] => (.ok (), sink)
  | s :: rest =>
    match sink.write s with
    | (.ok (), after) => after.writeAll rest
    | (.error e, after) => (.error e, after)

/-- Lets the events happen, up to the first whose output is not taken as a whole. -/
def play (sink : Sink) : List Event → Run Unit × Sink
  | [] => (pure (), sink)
  | event :: rest =>
    match sink.writeAll event.pieces with
    | (.ok (), after) =>
      let (run, last) := after.play rest
      (do Run.emit event; run, last)
    | (.error e, after) => (Run.fail e, after)

end Sink

namespace Run

variable {α : Type}

/-- The text that the run writes, if it succeeds. -/
def text (run : Run Unit) : Except Error String :=
  run.result.map fun _ => String.ofList run.written

/-- The run with its output written to a sink. -/
def pipe (run : Run α) (sink : Sink) : Run α × Sink :=
  let (played, last) := sink.play run.events
  (do played; ofExcept run.result, last)

/-- The run with its output sent to a receiver. If the receiver refuses, the run ends with that. -/
def send (run : Run α) (receiver : Receiver) : Run α × Receiver :=
  let (piped, last) := run.pipe { receiver }
  let result := piped.result.mapError fun e =>
    match last.refusal with
    | some reason => ⟨.writeFailed reason, none⟩
    | none => e
  ({ piped with result }, last.receiver)

/-- What a receiver with the given room gets of the run, and the run as it went. -/
def stream (run : Run Unit) (room : Nat) (reason : String) : List UInt8 × Run Unit :=
  let (sent, receiver) := run.send { room, reason }
  (receiver.taken, sent)

end Run

end XmlTemplate
