import XmlTemplate.Stream
import XmlTemplate.Proofs.Failure

/-!
# Delivery

What a receiver gets of a run. It does not matter in which pieces the output is sent: in the end the
receiver stands as if all of it had been offered at once (`Receiver.after`), so it holds all of it,
or as much of its front as it has room for. And a refusal is the last thing that happens. The two
meet in `render_delivered`.

Nor does it matter that a run is played back into the sink once it is known: writing a run that
consists of two is writing the one and then the other (`Run.pipe_bind`).
-/

namespace XmlTemplate

theorem Event.flatten_pieces (event : Event) : event.pieces.flatten = event.written := by
  cases event with
  | wrote markup => exact markup.flatten_pieces
  | _ => rfl

theorem utf8_append (s t : List Char) : utf8 (s ++ t) = utf8 s ++ utf8 t :=
  List.flatMap_append

/-! ## Receivers -/

namespace Receiver

/-- The bytes are all taken. -/
def Fits (receiver : Receiver) (bytes : List UInt8) : Prop :=
  bytes.length ≤ receiver.room

instance (receiver : Receiver) (bytes : List UInt8) : Decidable (receiver.Fits bytes) :=
  inferInstanceAs (Decidable (_ ≤ _))

/-- How the receiver stands once the bytes have been sent to it. -/
def after (receiver : Receiver) (bytes : List UInt8) : Receiver where
  room := receiver.room - bytes.length
  reason := receiver.reason
  taken := receiver.taken ++ bytes.take receiver.room
  refusals := receiver.refusals + if receiver.Fits bytes then 0 else 1

theorem after_nil (receiver : Receiver) : receiver.after [] = receiver := by
  simp [after, Fits]

theorem fits_take (receiver : Receiver) (bytes : List UInt8) :
    receiver.Fits (bytes.take receiver.room) :=
  List.length_take_le _ _

theorem not_fits_of_full {receiver : Receiver} (full : receiver.room = 0) {bytes : List UInt8}
    (ne : bytes ≠ []) : ¬receiver.Fits bytes := by
  rw [Fits, full, Nat.le_zero, List.length_eq_zero_iff]
  exact ne

theorem fits_append {receiver : Receiver} {first rest : List UInt8} :
    receiver.Fits (first ++ rest) ↔ receiver.Fits first ∧ (receiver.after first).Fits rest := by
  simp only [Fits, after, List.length_append]
  omega

theorem fits_append_iff {receiver : Receiver} {first : List UInt8} (h : receiver.Fits first)
    (rest : List UInt8) : receiver.Fits (first ++ rest) ↔ (receiver.after first).Fits rest := by
  rw [fits_append, and_iff_right h]

theorem not_fits_append {receiver : Receiver} {first : List UInt8} (h : ¬receiver.Fits first)
    (rest : List UInt8) : ¬receiver.Fits (first ++ rest) :=
  fun fits => h (fits_append.mp fits).1

theorem after_append {receiver : Receiver} {first : List UInt8} (h : receiver.Fits first)
    (rest : List UInt8) : receiver.after (first ++ rest) = (receiver.after first).after rest := by
  have taken : (first ++ rest).take receiver.room
      = first ++ rest.take (receiver.room - first.length) := by
    rw [List.take_append, List.take_of_length_le h]
  simp only [after, taken, if_pos h, fits_append_iff h, List.length_append, Nat.add_zero,
    Nat.sub_sub, List.take_of_length_le h, List.append_assoc]

/-- What comes behind bytes that do not fit changes nothing. -/
theorem after_append_of_not_fits {receiver : Receiver} {first : List UInt8}
    (h : ¬receiver.Fits first) (rest : List UInt8) :
    receiver.after (first ++ rest) = receiver.after first := by
  simp only [after, if_neg h, if_neg (not_fits_append h rest), List.length_append]
  simp only [Fits] at h
  rw [List.take_append_of_le_length (by omega), Nat.sub_eq_zero_of_le, Nat.sub_eq_zero_of_le]
    <;> omega

/-! ### Sending -/

theorem offer_of_room {receiver : Receiver} (h : receiver.room ≠ 0) (bytes : List UInt8) :
    receiver.offer bytes
      = (.ok (min receiver.room bytes.length), receiver.after (bytes.take receiver.room)) := by
  have taken : bytes.take (min receiver.room bytes.length) = bytes.take receiver.room := by
    rw [← List.take_take, List.take_length]
  rw [offer, if_neg h, after, if_pos (fits_take _ _), List.take_take, Nat.min_self,
    List.length_take, Nat.add_zero]
  dsimp only
  rw [taken]

theorem send_eq_offer (receiver : Receiver) {bytes : List UInt8} (ne : bytes ≠ []) :
    receiver.send bytes = match receiver.offer bytes with
      | (.error reason, after) => (.error reason, after)
      | (.ok count, after) => after.send (bytes.drop count) := by
  cases bytes with
  | nil => exact absurd rfl ne
  | cons first rest =>
      rw [send]
      split <;> rename_i offered <;> simp only [offered]

theorem send_of_full {receiver : Receiver} (full : receiver.room = 0) {bytes : List UInt8}
    (ne : bytes ≠ []) : receiver.send bytes = (.error receiver.reason, receiver.after bytes) := by
  rw [send_eq_offer receiver ne, offer, if_pos full, after, if_neg (not_fits_of_full full ne),
    full, Nat.zero_sub, List.take_zero, List.append_nil]

/-- With room, what is left after the first offer is sent on. -/
theorem send_of_room {receiver : Receiver} (h : receiver.room ≠ 0) {bytes : List UInt8}
    (ne : bytes ≠ []) : receiver.send bytes
      = (receiver.after (bytes.take receiver.room)).send (bytes.drop receiver.room) := by
  have left : bytes.drop (min receiver.room bytes.length) = bytes.drop receiver.room := by
    rcases Nat.le_total receiver.room bytes.length with part | all
    · rw [Nat.min_eq_left part]
    · rw [Nat.min_eq_right all, List.drop_length, List.drop_of_length_le all]
  rw [send_eq_offer receiver ne, offer_of_room h]
  dsimp only
  rw [left]

/-- **However the offers go, the bytes have then been sent as a whole.** -/
theorem send_eq (receiver : Receiver) (bytes : List UInt8) :
    receiver.send bytes = (if receiver.Fits bytes then .ok () else .error receiver.reason,
      receiver.after bytes) := by
  by_cases ne : bytes = []
  · subst ne
    rw [send, after_nil, if_pos (show receiver.Fits [] from Nat.zero_le _)]
  by_cases full : receiver.room = 0
  · rw [send_of_full full ne, if_neg (not_fits_of_full full ne)]
  -- the first offer takes what there is room for; what is left, if anything, meets no room
  rw [send_of_room full ne]
  by_cases fits : receiver.Fits bytes
  · rw [List.take_of_length_le fits, List.drop_of_length_le fits, send, if_pos fits]
  · have left : bytes.drop receiver.room ≠ [] := by
      rw [Ne, List.drop_eq_nil_iff]
      exact fits
    have used : (receiver.after (bytes.take receiver.room)).room = 0 := by
      have := Nat.le_of_not_le fits
      rw [after, List.length_take, Nat.min_eq_left this, Nat.sub_self]
    rw [send_of_full used left, ← after_append (fits_take _ _), List.take_append_drop, if_neg fits]
    rfl

end Receiver

/-! ## Sinks -/

namespace Sink

abbrev Fits (sink : Sink) (bytes : List UInt8) : Prop :=
  sink.receiver.Fits bytes

/-- How the sink stands once the bytes have been written to it. -/
def after (sink : Sink) (bytes : List UInt8) : Sink where
  receiver := sink.receiver.after bytes
  refusal := if sink.Fits bytes then sink.refusal else some sink.receiver.reason

/-- What writing the bytes ends with. -/
def result (sink : Sink) (bytes : List UInt8) : Except Error Unit :=
  if sink.Fits bytes then .ok () else .error ⟨.formatFailed, none⟩

theorem fits_nil (sink : Sink) : sink.Fits (utf8 []) :=
  Nat.zero_le _

theorem after_nil (sink : Sink) : sink.after (utf8 []) = sink := by
  rw [after, if_pos (fits_nil sink)]
  exact congrArg (Sink.mk · sink.refusal) (Receiver.after_nil _)

theorem after_append {sink : Sink} {first : List UInt8} (h : sink.Fits first)
    (rest : List UInt8) : sink.after (first ++ rest) = (sink.after first).after rest := by
  simp only [after, Receiver.after_append h, if_pos h, Receiver.fits_append_iff h]
  rfl

theorem after_append_of_not_fits {sink : Sink} {first : List UInt8} (h : ¬sink.Fits first)
    (rest : List UInt8) : sink.after (first ++ rest) = sink.after first := by
  rw [after, after, Receiver.after_append_of_not_fits h, if_neg h,
    if_neg (Receiver.not_fits_append h rest)]

theorem result_of_fits {sink : Sink} {bytes : List UInt8} (h : sink.Fits bytes) :
    sink.result bytes = .ok () := if_pos h

theorem result_of_not_fits {sink : Sink} {bytes : List UInt8} (h : ¬sink.Fits bytes) :
    sink.result bytes = .error ⟨.formatFailed, none⟩ := if_neg h

theorem result_append {sink : Sink} {first : List UInt8} (h : sink.Fits first)
    (rest : List UInt8) : sink.result (first ++ rest) = (sink.after first).result rest := by
  simp only [result, Receiver.fits_append_iff h]
  rfl

theorem write_eq (sink : Sink) (s : List Char) :
    sink.write s = (sink.result (utf8 s), sink.after (utf8 s)) := by
  rw [write, Receiver.send_eq, result, after]
  by_cases fits : sink.Fits (utf8 s)
  · rw [if_pos fits, if_pos fits, if_pos fits]
  · rw [if_neg fits, if_neg fits, if_neg fits]

/-- Pieces are written as their text is. -/
theorem writeAll_eq (sink : Sink) (pieces : List (List Char)) :
    sink.writeAll pieces
      = (sink.result (utf8 pieces.flatten), sink.after (utf8 pieces.flatten)) := by
  induction pieces generalizing sink with
  | nil => rw [writeAll, List.flatten_nil, after_nil, result_of_fits (fits_nil sink)]
  | cons piece rest ih =>
      rw [writeAll, write_eq, List.flatten_cons, utf8_append]
      by_cases fits : sink.Fits (utf8 piece)
      · rw [result_of_fits fits, after_append fits, result_append fits]
        exact ih _
      · rw [result_of_not_fits fits, after_append_of_not_fits fits,
          result_of_not_fits (Receiver.not_fits_append fits _)]

/-! ### Playing events -/

/-- The events happen, up to the first whose output does not fit. -/
theorem play_eq (sink : Sink) (events : List Event) :
    ∃ happened, happened <+: events
      ∧ (sink.Fits (utf8 (events.flatMap Event.written)) → happened = events)
      ∧ sink.play events = (⟨happened, sink.result (utf8 (events.flatMap Event.written))⟩,
        sink.after (utf8 (events.flatMap Event.written))) := by
  induction events generalizing sink with
  | nil =>
      refine ⟨[], List.nil_prefix, fun _ => rfl, ?_⟩
      rw [play, List.flatMap_nil, after_nil, result_of_fits (fits_nil sink)]
      rfl
  | cons event rest ih =>
      rw [play, writeAll_eq, Event.flatten_pieces, List.flatMap_cons, utf8_append]
      by_cases fits : sink.Fits (utf8 event.written)
      · obtain ⟨happened, front, whole, played⟩ := ih (sink.after (utf8 event.written))
        refine ⟨event :: happened, List.prefix_cons_inj event |>.mpr front, fun all => ?_, ?_⟩
        · rw [whole (Receiver.fits_append.mp all).2]
        · rw [result_of_fits fits, after_append fits, result_append fits]
          dsimp only
          rw [played]
          rfl
      · -- this event is cut short, and what comes behind it does not count
        refine ⟨[], List.nil_prefix, fun all => ?_, ?_⟩
        · exact absurd all (Receiver.not_fits_append fits _)
        · rw [result_of_not_fits fits, after_append_of_not_fits fits,
            result_of_not_fits (Receiver.not_fits_append fits _)]
          rfl

/-- Events are played in two parts, the second only if the first goes well. -/
theorem play_append (sink : Sink) (first rest : List Event) :
    sink.play (first ++ rest) = match (sink.play first).1.result with
      | .ok () =>
        (⟨(sink.play first).1.events ++ ((sink.play first).2.play rest).1.events,
            ((sink.play first).2.play rest).1.result⟩,
          ((sink.play first).2.play rest).2)
      | .error _ => sink.play first := by
  induction first generalizing sink with
  | nil => rfl
  | cons event first ih =>
      rw [List.cons_append, play, play]
      rcases sink.writeAll event.pieces with ⟨e | _, after⟩
      · rfl
      · dsimp only
        rw [ih]
        rcases after.play first with ⟨⟨events, e | _⟩, last⟩ <;> rfl

end Sink

/-! ## Runs -/

namespace Run

variable {α β : Type}

theorem pipe_of_play_ok {run : Run α} {sink after : Sink} {events : List Event}
    (h : sink.play run.events = (⟨events, .ok ()⟩, after)) :
    run.pipe sink = (⟨events, run.result⟩, after) := by
  rw [pipe, h]
  dsimp only
  rw [bind_of_ok rfl]
  simp [ofExcept]

theorem pipe_of_play_error {run : Run α} {sink after : Sink} {events : List Event} {e : Error}
    (h : sink.play run.events = (⟨events, .error e⟩, after)) :
    run.pipe sink = (⟨events, .error e⟩, after) := by
  rw [pipe, h]
  dsimp only
  rw [bind_of_error rfl]

/-- A run that consists of two is written part by part, the second only if the first and its writing
go well. -/
theorem pipe_bind (run : Run α) (next : α → Run β) (sink : Sink) :
    (run >>= next).pipe sink
      = (do let a ← (run.pipe sink).1; ((next a).pipe (run.pipe sink).2).1,
        match (run.pipe sink).1.result with
        | .ok a => ((next a).pipe (run.pipe sink).2).2
        | .error _ => (run.pipe sink).2) := by
  -- all events are played in one go, which `play_append` takes apart again
  have one : (sink.play (run >>= next).events) = match run.result with
      | .ok a => sink.play (run.events ++ (next a).events)
      | .error _ => sink.play run.events := by
    cases hr : run.result with
    | ok a => rw [bind_of_ok hr]
    | error e => rw [bind_of_error hr]
  rcases played : sink.play run.events with ⟨⟨events, e | _⟩, after⟩
  · have failed : sink.play (run >>= next).events = (⟨events, .error e⟩, after) := by
      rw [one]
      cases run.result with
      | ok a =>
          dsimp only
          rw [Sink.play_append, played]
      | error e' => exact played
    rw [pipe_of_play_error played, pipe_of_play_error failed, bind_of_error rfl]
  rw [pipe_of_play_ok played]
  cases hr : run.result with
  | error e =>
      rw [bind_of_error hr, bind_of_error rfl]
      exact pipe_of_play_ok played
  | ok a =>
      rw [hr] at one
      dsimp only at one
      rw [Sink.play_append, played] at one
      have ends : (run >>= next).result = (next a).result := by rw [bind_of_ok hr]
      rcases second : after.play (next a).events with ⟨⟨more, e | _⟩, last⟩ <;>
        rw [second] at one
      · rw [pipe_of_play_error one, bind_of_ok rfl]
        dsimp only
        rw [pipe_of_play_error second]
      · rw [pipe_of_play_ok one, ends, bind_of_ok rfl]
        dsimp only
        rw [pipe_of_play_ok second]

/-- Sending a run: all of it happens if its output fits, and else a refusal is what it ends with. -/
theorem send_eq (run : Run α) (receiver : Receiver) :
    ∃ happened, happened <+: run.events
      ∧ (receiver.Fits (utf8 run.written) → happened = run.events)
      ∧ run.send receiver
        = (⟨happened, if receiver.Fits (utf8 run.written) then run.result
            else .error ⟨.writeFailed receiver.reason, none⟩⟩,
          receiver.after (utf8 run.written)) := by
  obtain ⟨happened, front, whole, played⟩ := Sink.play_eq { receiver } run.events
  refine ⟨happened, front, whole, ?_⟩
  rw [← written] at played
  by_cases fits : receiver.Fits (utf8 run.written)
  · rw [Sink.result_of_fits fits] at played
    have none : (Sink.after { receiver } (utf8 run.written)).refusal = none := if_pos fits
    rw [send, pipe_of_play_ok played, if_pos fits]
    dsimp only
    rw [none]
    cases run.result <;> rfl
  · rw [Sink.result_of_not_fits fits] at played
    have some : (Sink.after { receiver } (utf8 run.written)).refusal = some receiver.reason :=
      if_neg fits
    rw [send, pipe_of_play_error played, if_neg fits]
    dsimp only
    rw [some]
    rfl

end Run

/-! ## Renders -/

/--
**Streaming a render agrees with rendering it as a whole, wherever the receiver stops.**

If the receiver has room for all that the render writes, it gets that and the render goes as it does
without a receiver. If not, it gets the front of it up to the last byte that it has room for, even
within a character, and its one refusal ends the render and takes the place of what the render would
have ended with. A format error comes out in neither case.
-/
theorem render_delivered (template : Template) (mode : Mode) (request : Request) (room : Nat)
    (reason : String) :
    let run := template.render mode request
    let sent := run.send { room, reason }
    ((utf8 run.written).length ≤ room →
      sent.1 = run ∧ sent.2.taken = utf8 run.written ∧ sent.2.refusals = 0) ∧
    (room < (utf8 run.written).length →
      (∃ e, sent.1.result = .error e ∧ e.cause.message = "io error" ∧
        e.cause.origin? = some reason ∧ e.path = none) ∧
      sent.1.events <+: run.events ∧
      sent.2.taken = (utf8 run.written).take room ∧ sent.2.refusals = 1) ∧
    ∀ e, sent.1.result = .error e → e.cause ≠ .formatFailed := by
  intro run sent
  obtain ⟨happened, front, whole, sent_eq⟩ := run.send_eq { room, reason }
  replace sent_eq : sent = _ := sent_eq
  rcases Nat.lt_or_ge room (utf8 run.written).length with short | enough
  · have refused : ¬Receiver.Fits { room, reason } (utf8 run.written) := Nat.not_le_of_lt short
    rw [if_neg refused] at sent_eq
    refine ⟨fun fits => absurd fits refused, fun _ => ?_, ?_⟩
    · rw [sent_eq, Receiver.after, if_neg refused, List.nil_append]
      exact ⟨⟨_, rfl, rfl, rfl, rfl⟩, front, rfl, rfl⟩
    · rw [sent_eq]
      rintro e ⟨⟩ ⟨⟩
  · have fits : Receiver.Fits { room, reason } (utf8 run.written) := enough
    rw [if_pos fits, whole fits] at sent_eq
    refine ⟨fun _ => ?_, fun short => absurd enough (Nat.not_le_of_lt short), ?_⟩
    · rw [sent_eq, Receiver.after, if_pos fits, List.nil_append, List.take_of_length_le enough]
      exact ⟨rfl, rfl, rfl⟩
    · rw [sent_eq]
      -- the render itself has no format error to fail with
      intro e failed format
      have allowed := template.render_failsOnly mode request e failed
      rw [format] at allowed
      cases allowed

/-- A template of which the second character takes two bytes. -/
def accented : Template where
  root := "é"
  declarations := []
  globals := .empty
  elements := []

theorem render_delivered_accented :
    2 < (utf8 (accented.render .lenient {}).written).length
      ∧ ((accented.render .lenient {}).send ⟨2, "full", [], 0⟩).2.taken = [0x3C, 0xC3]
      ∧ ((accented.render .lenient {}).send ⟨2, "full", [], 0⟩).2.refusals = 1 := by
  have short : 2 < (utf8 (accented.render .lenient {}).written).length := by decide
  obtain ⟨_, cut, _⟩ := render_delivered accented .lenient {} 2 "full"
  obtain ⟨_, _, taken, refusals⟩ := cut short
  exact ⟨short, taken.trans (by decide), refusals⟩

end XmlTemplate
