/-
This file proves that trouble with a sink cuts the text of an event short and does nothing else.

An event has a text, the one that a sink without troubles takes. It is written in dozens of small
pieces, and every sink takes the beginning of it. If the sink took all of it, the event is
accepted, after a flush if it is the last of a run. If not, the event is rejected with the error of
its last request, and that is the only one that failed. The next event begins where this one left
the sink, so an error belongs to the event that it happened in.
-/

import TestTree.Formatter.Printer
import TestTree.Proofs.Run.Conclusion
import TestTree.Proofs.Sink.Writing
import TestTree.Sink.Faulty

namespace TestTree

open Text Request

/-! ### The text of an event -/

theorem Text.Line.join_chunks (colored : Bool) (line : Line) :
    String.join (line.chunks colored) = line.render colored := by
  obtain ⟨color, pieces⟩ := line
  cases color with
  | none => simp only [chunks, render, text, String.join_append, String.join_cons, String.join_nil,
      String.append_empty]
  | some color =>
    cases colored with
    | false => simp only [chunks, render, text, Bool.false_eq_true, if_false, String.join_append,
        String.join_cons, String.join_nil, String.append_empty]
    | true => simp only [chunks, render, text, if_true, String.join_append, String.join_cons,
        String.join_nil, String.append_empty, String.append_assoc]

/-- Whether the indentations of an event fit into memory. -/
def Event.Fits : Event → Prop
  | .groupStart _ depth => fits depth = true
  | .testOutcome _ depth _ => fits (depth + 1) = true
  | .runStart _ | .runOutcomes _ => True

namespace Printer

/-- The lines of an event, if its indentations fit. -/
def eventLines (event : Event) : List Line :=
  match linesOf event with
  | .ok lines => lines
  | .error _ => []

/-- The text of an event, colored or not. -/
def rendering (colored : Bool) (event : Event) : String :=
  String.join ((eventLines event).map (Line.render colored))

theorem fits_of_succ {depth : Nat} (fit : fits (depth + 1) = true) : fits depth = true := by
  simp only [fits, decide_eq_true_iff] at *
  omega

/-- The lines of an event can be made if and only if its indentations fit. -/
theorem linesOf_eq_ok {event : Event} (fit : event.Fits) :
    linesOf event = .ok (eventLines event) := by
  cases event with
  | runStart => rfl
  | runOutcomes => rfl
  | groupStart name depth =>
    have fit : fits depth = true := fit
    simp only [eventLines, linesOf, indent, fit, if_true]
    rfl
  | testOutcome name depth outcome =>
    have fit : fits (depth + 1) = true := fit
    simp only [eventLines, linesOf, indent, fit, fits_of_succ fit, if_true]
    rfl

theorem bytes_join (texts : List String) : bytes (String.join texts) = texts.flatMap bytes := by
  induction texts with
  | nil => rfl
  | cons text rest inductionHypothesis =>
    rw [String.join_cons, bytes_append, inductionHypothesis, List.flatMap_cons]

/-- The bytes of the chunks of lines are those of the rendered lines. -/
theorem bytes_chunks (colored : Bool) (lines : List Line) :
    (lines.flatMap (Line.chunks colored)).flatMap bytes =
      bytes (String.join (lines.map (Line.render colored))) := by
  rw [bytes_join, List.flatMap_assoc, List.flatMap_map]
  simp only [← bytes_join, Line.join_chunks]

/-! ### Writing lines -/

variable {Target : Type}

/-- Lines are written as their chunks are. -/
theorem writeLines_eq_writeTexts (sink : Sink Target) (printer : Printer Target)
    (lines : List Line) :
    printer.writeLines sink lines =
      let written :=
        sink.writeTexts printer.target (lines.flatMap (Line.chunks (printer.useColor sink)))
      (⟨written.1, printer.setting⟩, written.2) := by
  induction lines generalizing printer with
  | nil => rfl
  | cons line rest inductionHypothesis =>
    have color := sink.supportsColor_writeTexts printer.target
      (line.chunks (printer.useColor sink))
    rw [writeLines, List.flatMap_cons, Sink.writeTexts_append, writeLine]
    cases written : sink.writeTexts printer.target (line.chunks (printer.useColor sink)) with
    | mk after result =>
      rw [written] at color
      cases result with
      | error error => rfl
      | ok _ =>
        simp only [inductionHypothesis, useColor, color]

end Printer

/-! ### Answers to events -/

/-- The reaction to an event whose writing came to a result. -/
def Reaction.ofResult : Except IoError Unit → Reaction IoError
  | .ok () => .accepted
  | .error error => .rejected error

/-- How the requests made for an event and the reaction to it depend on the text of the event. -/
structure Answered (text : String) (kind : EventKind) (requests : List Request)
    (reaction : Reaction IoError) : Prop where
  /-- What the sink took is the beginning of the text. -/
  taken_isPrefix : takenAll requests <+: bytes text
  /-- A group or a test is accepted if and only if the sink took the whole text. -/
  accepted_iff : kind = .groupStart ∨ kind = .testOutcome →
    (reaction = .accepted ↔ takenAll requests = bytes text)
  /-- If the sink did not take the whole text, the event is rejected with the error of the first
  request that failed, and no request follows it. -/
  rejected : takenAll requests ≠ bytes text → ∃ earlier last error,
    requests = earlier ++ [last] ∧ (∀ request ∈ earlier, request.Smooth) ∧
      last.failure? = some error ∧ reaction = .rejected error
  /-- The sink is flushed once if it took the whole text of the last event, and not otherwise. -/
  flushes : (requests.countP fun request => !request.isWrite) =
    if kind = .runOutcomes ∧ takenAll requests = bytes text then 1 else 0
  /-- The flush is the last request, and the reaction is its result. -/
  flushed : kind = .runOutcomes → takenAll requests = bytes text → ∃ writes result,
    requests = writes ++ [.flush result] ∧ (∀ request ∈ writes, request.Smooth) ∧
      reaction = .ofResult result
  /-- Nothing is asked of the sink for the first event of a run, and the event is accepted. -/
  silent : kind = .runStart → requests = [] ∧ reaction = .accepted

theorem Wrote.rejected {bytes : List UInt8} {requests : List Request}
    {result : Except IoError Unit} (wrote : Wrote bytes requests result)
    (short : takenAll requests ≠ bytes) : ∃ earlier last error,
      requests = earlier ++ [last] ∧ (∀ request ∈ earlier, request.Smooth) ∧
        last.failure? = some error ∧ result = .error error := by
  cases wrote with
  | whole _ _ taken => exact absurd taken short
  | broken earlier last error left smooth failed =>
    exact ⟨earlier, last, error, rfl, smooth, failed, rfl⟩

/-- A writer never flushes. -/
theorem Wrote.flushes {bytes : List UInt8} {requests : List Request}
    {result : Except IoError Unit} (wrote : Wrote bytes requests result) :
    (requests.countP fun request => !request.isWrite) = 0 := by
  have smoothWrites : ∀ {some : List Request}, (∀ request ∈ some, request.Smooth) →
      (some.countP fun request => !request.isWrite) = 0 := by
    intro some smooth
    refine List.countP_eq_zero.mpr fun request member => ?_
    rw [(smooth request member).isWrite]
    exact Bool.false_ne_true
  cases wrote with
  | whole _ smooth => exact smoothWrites smooth
  | broken earlier last error left smooth failed =>
    have lastWrites : last.isWrite = true := by
      cases last with
      | write => rfl
      | flush => cases failed
    rw [List.countP_append, smoothWrites smooth, List.countP_singleton, lastWrites]
    rfl

/-- A group or a test is answered as its text was written. -/
theorem answered_of_wrote {text : String} {kind : EventKind} {requests : List Request}
    {result : Except IoError Unit} (wrote : Wrote (bytes text) requests result)
    (inner : kind = .groupStart ∨ kind = .testOutcome) :
    Answered text kind requests (.ofResult result) where
  taken_isPrefix := wrote.taken_isPrefix
  accepted_iff _ := by
    rw [← wrote.eq_ok_iff]
    cases result <;> simp only [Reaction.ofResult, reduceCtorEq]
  rejected short := by
    obtain ⟨earlier, last, error, split, smooth, failed, rfl⟩ := wrote.rejected short
    exact ⟨earlier, last, error, split, smooth, failed, rfl⟩
  flushes := by
    rw [wrote.flushes, if_neg]
    rintro ⟨rfl, _⟩
    exact absurd inner (by decide)
  flushed ending := by
    rw [ending] at inner
    exact absurd inner (by decide)
  silent starting := by
    rw [starting] at inner
    exact absurd inner (by decide)

/-- The last event is rejected if its text could not be written. -/
theorem answered_of_broken {text : String} {requests : List Request} {error : IoError}
    (wrote : Wrote (bytes text) requests (.error error)) :
    Answered text .runOutcomes requests (.rejected error) := by
  have short : takenAll requests ≠ bytes text := fun whole => by
    cases wrote.eq_ok_iff.mpr whole
  exact {
    taken_isPrefix := wrote.taken_isPrefix
    accepted_iff := fun inner => absurd inner (by decide)
    rejected := fun _ => by
      obtain ⟨earlier, last, _, split, smooth, failed, same⟩ := wrote.rejected short
      cases same
      exact ⟨earlier, last, error, split, smooth, failed, rfl⟩
    flushes := by rw [wrote.flushes, if_neg fun ⟨_, whole⟩ => short whole]
    flushed := fun _ whole => absurd whole short
    silent := fun starting => by cases starting }

/-- The last event is flushed when its text was written, and answered as the flush was. -/
theorem answered_of_flushed {text : String} {requests : List Request}
    (wrote : Wrote (bytes text) requests (.ok ())) (result : Except IoError Unit) :
    Answered text .runOutcomes (requests ++ [.flush result]) (.ofResult result) := by
  cases wrote with
  | whole _ smooth taken =>
    have whole : takenAll (requests ++ [.flush result]) = bytes text := by
      rw [takenAll_append, taken]
      exact List.append_nil _
    exact {
      taken_isPrefix := whole ▸ List.prefix_rfl
      accepted_iff := fun inner => absurd inner (by decide)
      rejected := fun short => absurd whole short
      flushes := by
        rw [if_pos ⟨rfl, whole⟩, List.countP_append, (Wrote.whole _ smooth taken).flushes]
        rfl
      flushed := fun _ _ => ⟨requests, result, rfl, smooth, rfl⟩
      silent := fun starting => by cases starting }

theorem answered_silent : Answered "" .runStart [] .accepted where
  taken_isPrefix := List.nil_prefix
  accepted_iff inner := absurd inner (by decide)
  rejected short := absurd rfl short
  flushes := rfl
  flushed ending := by cases ending
  silent _ := ⟨rfl, rfl⟩

/-! ### Events behind a recorder -/

namespace Printer

variable {Target : Type}

/-- The printer with its sink behind a recorder that has recorded some requests. -/
def onRecord (printer : Printer Target) (told : List Request) : Printer (Target × List Request) :=
  ⟨(printer.target, told), printer.setting⟩

/-- An event whose lines can be made is answered as they are printed. -/
theorem react_eq (sink : Sink Target) (printer : Printer Target) {event : Event}
    (fit : event.Fits) :
    printer.react sink event =
      let printed := printer.print sink event (eventLines event)
      (printed.1, .ofResult printed.2) := by
  unfold react
  rw [linesOf_eq_ok fit]
  simp only
  cases printer.print sink event (eventLines event) with
  | mk after result => cases result <;> rfl

/-- Behind a recorder lines are written as before, and the requests do not depend on what was
recorded. -/
theorem writeLines_onRecord (sink : Sink Target) (printer : Printer Target) (lines : List Line) :
    ∃ requests, (∀ told, (printer.onRecord told).writeLines sink.recording lines =
        ((printer.writeLines sink lines).1.onRecord (told ++ requests),
          (printer.writeLines sink lines).2)) ∧
      Wrote (bytes (String.join (lines.map (Line.render (printer.useColor sink))))) requests
        (printer.writeLines sink lines).2 := by
  obtain ⟨requests, same, wrote⟩ := sink.recorded_writeTexts printer.target
    (lines.flatMap (Line.chunks (printer.useColor sink)))
  rw [bytes_chunks] at wrote
  rw [writeLines_eq_writeTexts]
  refine ⟨requests, fun told => ?_, wrote⟩
  rw [writeLines_eq_writeTexts]
  have written := same told
  simp only at written
  simp only [onRecord]
  exact congrArg (fun ended => (Printer.mk ended.1 printer.setting, ended.2)) written

theorem print_of_ne (sink : Sink Target) (printer : Printer Target) {event : Event}
    (lines : List Line) (inner : event.kind ≠ .runOutcomes) :
    printer.print sink event lines = printer.writeLines sink lines := by
  unfold print
  cases printer.writeLines sink lines with
  | mk after result =>
    cases result with
    | error error => rfl
    | ok _ => exact if_neg inner

/-- Behind a recorder an event has the same effect and the same reaction, and the requests that
are made for it do not depend on what was recorded. -/
def ReactsOnRecord (sink : Sink Target) (printer : Printer Target) (event : Event) : Prop :=
  ∃ requests, (∀ told, (printer.onRecord told).react sink.recording event =
      ((printer.react sink event).1.onRecord (told ++ requests), (printer.react sink event).2)) ∧
    Answered (rendering (printer.useColor sink) event) event.kind requests
      (printer.react sink event).2

theorem reactsOnRecord_inner (sink : Sink Target) (printer : Printer Target) {event : Event}
    (fit : event.Fits) (inner : event.kind = .groupStart ∨ event.kind = .testOutcome) :
    ReactsOnRecord sink printer event := by
  obtain ⟨requests, same, wrote⟩ := printer.writeLines_onRecord sink (eventLines event)
  have before : event.kind ≠ .runOutcomes := by
    rcases inner with kind | kind <;> rw [kind] <;> decide
  refine ⟨requests, fun told => ?_, ?_⟩
  · rw [react_eq _ _ fit, react_eq _ _ fit, print_of_ne _ _ _ before, print_of_ne _ _ _ before, same]
  · rw [react_eq _ _ fit, print_of_ne _ _ _ before]
    exact answered_of_wrote wrote inner

theorem reactsOnRecord_last (sink : Sink Target) (printer : Printer Target) (summary : Summary) :
    ReactsOnRecord sink printer (.runOutcomes summary) := by
  have fit : (Event.runOutcomes summary).Fits := trivial
  obtain ⟨requests, same, wrote⟩ :=
    printer.writeLines_onRecord sink (eventLines (.runOutcomes summary))
  unfold ReactsOnRecord
  simp only [react_eq _ _ fit, print, same]
  cases written : printer.writeLines sink (eventLines (.runOutcomes summary)) with
  | mk after result =>
    rw [written] at wrote
    cases result with
    | error error => exact ⟨requests, fun _ => rfl, answered_of_broken wrote⟩
    | ok _ =>
      have flushed := answered_of_flushed wrote (sink.flush after.target).2
      refine ⟨_, fun told => ?_, flushed⟩
      rw [← List.append_assoc]
      rfl

theorem reactsOnRecord (sink : Sink Target) (printer : Printer Target) {event : Event}
    (fit : event.Fits) : ReactsOnRecord sink printer event := by
  cases event with
  | runStart tests => exact ⟨[], fun told => by rw [List.append_nil]; rfl, answered_silent⟩
  | groupStart name depth => exact reactsOnRecord_inner sink printer fit (.inl rfl)
  | testOutcome name depth outcome => exact reactsOnRecord_inner sink printer fit (.inr rfl)
  | runOutcomes summary => exact reactsOnRecord_last sink printer summary

/-! ### Transcripts -/

/-- What an event led to: the requests that were made for it and the reaction to it. -/
structure Printed where
  event : Event
  colored : Bool
  requests : List Request
  reaction : Reaction IoError

/-- The entry for an event in the account of rejected events. -/
def rejection? (event : Event) (reaction : Reaction IoError) : Option (EventKind × IoError) :=
  match reaction with
  | .rejected error => some (event.kind, error)
  | _ => none

/-- What each of several events leads to, in the state that the earlier events left. -/
def transcript (sink : Sink Target) (printer : Printer Target) : List Event → List Printed
  | [] => []
  | event :: rest =>
    ⟨event, printer.useColor sink, ((printer.onRecord []).react sink.recording event).1.target.2,
        (printer.react sink event).2⟩ ::
      transcript sink (printer.react sink event).1 rest

/-- The errors of events, each with the kind of its event. -/
def errors (printed : List Printed) : List (EventKind × IoError) :=
  printed.flatMap fun entry => (rejection? entry.event entry.reaction).toList

/-- The requests that were made for events. -/
def requests (printed : List Printed) : List Request := printed.flatMap Printed.requests

/-- The printer that several events leave. -/
def after (sink : Sink Target) (printer : Printer Target) (events : List Event) :
    Printer Target :=
  events.foldl (fun before event => (before.react sink event).1) printer

open Formatter

theorem deliver_of_fits (sink : Sink Target) (printer : Printer Target)
    (earlier : List (EventKind × IoError)) {event : Event} (fit : event.Fits) :
    (formatter sink).deliver ⟨printer, earlier, none⟩ event =
      ⟨(printer.react sink event).1,
        earlier ++ (rejection? event (printer.react sink event).2).toList, none⟩ := by
  unfold deliver
  simp only [formatter, react_eq sink printer fit]
  cases (printer.print sink event (eventLines event)).2 with
  | error error => rfl
  | ok _ => exact congrArg (Delivery.mk _ · none) (List.append_nil earlier).symm

/-- The account of rejected events is that of the transcript. -/
theorem deliverAll_eq (sink : Sink Target) (printer : Printer Target)
    (earlier : List (EventKind × IoError)) (events : List Event)
    (fit : ∀ event ∈ events, event.Fits) :
    (formatter sink).deliverAll ⟨printer, earlier, none⟩ events =
      ⟨printer.after sink events, earlier ++ errors (printer.transcript sink events), none⟩ := by
  induction events generalizing printer earlier with
  | nil => exact congrArg (Delivery.mk printer · none) (List.append_nil earlier).symm
  | cons event rest inductionHypothesis =>
    obtain ⟨own, others⟩ := List.forall_mem_cons.mp fit
    show (formatter sink).deliverAll ((formatter sink).deliver _ event) rest = _
    rw [deliver_of_fits sink printer earlier own, inductionHypothesis _ _ others, transcript, errors,
      errors, List.flatMap_cons, List.append_assoc]
    rfl

/-- Behind a recorder the same happens, and what is recorded are the requests of the transcript. -/
theorem deliverAll_onRecord (sink : Sink Target) (printer : Printer Target) (told : List Request)
    (earlier : List (EventKind × IoError)) (events : List Event)
    (fit : ∀ event ∈ events, event.Fits) :
    (formatter sink.recording).deliverAll ⟨printer.onRecord told, earlier, none⟩ events =
      ⟨(printer.after sink events).onRecord (told ++ requests (printer.transcript sink events)),
        earlier ++ errors (printer.transcript sink events), none⟩ := by
  induction events generalizing printer told earlier with
  | nil =>
    simp only [transcript, requests, errors, List.flatMap_nil, List.append_nil]
    rfl
  | cons event rest inductionHypothesis =>
    obtain ⟨own, others⟩ := List.forall_mem_cons.mp fit
    obtain ⟨made, same, _⟩ := reactsOnRecord sink printer own
    show (formatter sink.recording).deliverAll
      ((formatter sink.recording).deliver _ event) rest = _
    rw [deliver_of_fits sink.recording (printer.onRecord told) earlier own, same,
      inductionHypothesis _ _ _ others, transcript]
    simp only [errors, requests, List.flatMap_cons, same, List.append_assoc, after,
      List.foldl_cons]
    rfl

/-- Every event is answered as its text was written. -/
theorem answered_transcript (sink : Sink Target) (printer : Printer Target) (events : List Event)
    (fit : ∀ event ∈ events, event.Fits) :
    ∀ printed ∈ printer.transcript sink events,
      Answered (rendering printed.colored printed.event) printed.event.kind printed.requests
        printed.reaction := by
  induction events generalizing printer with
  | nil => exact fun printed member => absurd member List.not_mem_nil
  | cons event rest inductionHypothesis =>
    obtain ⟨own, others⟩ := List.forall_mem_cons.mp fit
    rw [transcript]
    refine List.forall_mem_cons.mpr ⟨?_, inductionHypothesis _ others⟩
    obtain ⟨made, same, answered⟩ := reactsOnRecord sink printer own
    show Answered _ _ ((printer.onRecord []).react sink.recording event).1.target.2 _
    rw [same]
    exact answered

theorem map_event_transcript (sink : Sink Target) (printer : Printer Target)
    (events : List Event) : (printer.transcript sink events).map Printed.event = events := by
  induction events generalizing printer with
  | nil => rfl
  | cons event rest inductionHypothesis =>
    rw [transcript, List.map_cons, inductionHypothesis]

/-! ### Events that do not fit -/

theorem linesOf_eq_error {event : Event} (large : ¬ event.Fits) :
    ∃ payload, linesOf event = .error payload := by
  cases event with
  | runStart => exact absurd trivial large
  | runOutcomes => exact absurd trivial large
  | groupStart name depth =>
    have large : fits depth = false := Bool.not_eq_true _ ▸ large
    exact ⟨_, by rw [linesOf, indent, large]; rfl⟩
  | testOutcome name depth outcome =>
    have large : fits (depth + 1) = false := Bool.not_eq_true _ ▸ large
    cases own : fits depth with
    | false => exact ⟨_, by rw [linesOf, indent, own]; rfl⟩
    | true => exact ⟨_, by rw [linesOf, indent, indent, own, large]; rfl⟩

/-- A printer that gets through events could make all of their indentations. -/
theorem fits_of_deliverAll (sink : Sink Target) (printer : Printer Target)
    (earlier : List (EventKind × IoError)) (events : List Event)
    (through : ((formatter sink).deliverAll ⟨printer, earlier, none⟩ events).panic = none) :
    ∀ event ∈ events, event.Fits := by
  induction events generalizing printer earlier with
  | nil => exact fun event member => absurd member List.not_mem_nil
  | cons event rest inductionHypothesis =>
    have fit : event.Fits := Classical.byContradiction fun large => by
      obtain ⟨payload, failed⟩ := linesOf_eq_error large
      have panicked : ((formatter sink).deliver ⟨printer, earlier, none⟩ event).panic =
          some payload := by
        unfold deliver
        simp only [formatter, react, failed]
      have calm := panic_eq_none_of_deliverAll
        (show ((formatter sink).deliverAll ((formatter sink).deliver _ event) rest).panic = none
          from through)
      rw [panicked] at calm
      cases calm
    have others := inductionHypothesis (printer.react sink event).1
      (earlier ++ (rejection? event (printer.react sink event).2).toList)
      (by rw [← deliver_of_fits sink printer earlier fit]; exact through)
    exact List.forall_mem_cons.mpr ⟨fit, others⟩

/-! ### Truncation -/

/-- A run that prints and returns a report got through events that fit, and the report has the
errors of their transcript. -/
theorem formatErrors_of_yields {State : Type} {runner : Runner State (Printer Target) IoError}
    {sink : Sink Target} (prints : runner.formatter = formatter sink) {report : Report IoError}
    {before after : State} (returned : runner.run.Yields before report after) :
    (∀ event ∈ report.root.story, event.Fits) ∧
      report.formatErrors = errors (runner.initial.transcript sink report.root.story) := by
  obtain ⟨root, tally, _, endures, rfl⟩ :=
    (Runner.yields_run_root_iff runner report before after).mp returned
  rw [prints] at endures
  have fit : ∀ event ∈ root.story, event.Fits :=
    fits_of_deliverAll sink runner.initial [] root.story endures
  refine ⟨fit, ?_⟩
  show (runner.formatter.deliverAll (fresh runner.initial) root.story).errors = _
  rw [prints, fresh, deliverAll_eq sink runner.initial [] root.story fit]
  rfl

/-- Whatever a sink answers, every event is answered as the part of its text that the sink took
calls for, and its requests stand between those of the events around it. The errors are those of
the events that were rejected, in order, also in the report of a run. -/
theorem printing_truncates (sink : Sink Target) (printer : Printer Target) (events : List Event)
    (fit : ∀ event ∈ events, event.Fits) :
    (printer.transcript sink events).map Printed.event = events ∧
      (∀ printed ∈ printer.transcript sink events,
        Answered (rendering printed.colored printed.event) printed.event.kind printed.requests
          printed.reaction) ∧
      (formatter sink).deliverAll (fresh printer) events =
        ⟨printer.after sink events, errors (printer.transcript sink events), none⟩ ∧
      (formatter sink.recording).deliverAll (fresh (printer.onRecord [])) events =
        ⟨(printer.after sink events).onRecord (requests (printer.transcript sink events)),
          errors (printer.transcript sink events), none⟩ ∧
      ∀ {State : Type} (suite : Suite (Action State)) (boundary : Boundary)
        (report : Report IoError) (before after : State),
        (Runner.mk suite boundary (formatter sink) printer).run.Yields before report after →
          report.formatErrors = errors (printer.transcript sink report.root.story) ∧
            ∀ printed ∈ printer.transcript sink report.root.story,
              Answered (rendering printed.colored printed.event) printed.event.kind
                printed.requests printed.reaction := by
  refine ⟨map_event_transcript sink printer events, answered_transcript sink printer events fit,
    deliverAll_eq sink printer [] events fit, deliverAll_onRecord sink printer [] [] events fit, ?_⟩
  intro State suite boundary report before after returned
  obtain ⟨fitting, same⟩ := formatErrors_of_yields rfl returned
  exact ⟨same, answered_transcript sink printer report.root.story fitting⟩

/-- A target that takes two bytes, and nothing once after that. -/
def troubled : FaultyTarget := ⟨true, none, none, [⟨2, .takesNothing (some 1)⟩], #[], 0⟩

/-- The events of a run up to its first group. -/
def opening : List Event := [.runStart 1, .groupStart "math" 0]

theorem writeText_troubled :
    FaultyTarget.sink.writeText troubled "math" =
      (⟨true, none, none, [⟨2, .takesNothing (some 0)⟩], #[109, 97], 0⟩, .error .nothingTaken) := by
  have math : "math".toUTF8.data.toList = [109, 97, 116, 104] := by decide +kernel
  rw [Sink.writeText, math, Sink.writeAll_cons]
  show FaultyTarget.sink.writeAll ⟨true, none, none, [⟨2, .takesNothing (some 1)⟩], #[109, 97], 0⟩
    [116, 104] = _
  rw [Sink.writeAll_cons]
  rfl

/-- The name of the group is cut short after two letters, and the group is rejected. -/
theorem printing_truncates_troubled :
    (∀ event ∈ opening, event.Fits) ∧
      (∀ printed ∈ transcript FaultyTarget.sink ⟨troubled, .never⟩ opening,
        Answered (rendering printed.colored printed.event) printed.event.kind printed.requests
          printed.reaction) ∧
      errors (transcript FaultyTarget.sink ⟨troubled, .never⟩ opening) =
        [(.groupStart, .nothingTaken)] := by
  have fit : ∀ event ∈ opening, event.Fits :=
    List.forall_mem_cons.mpr ⟨trivial, List.forall_mem_cons.mpr
      ⟨rfl, fun event member => absurd member List.not_mem_nil⟩⟩
  obtain ⟨_, answered, _⟩ := printing_truncates FaultyTarget.sink ⟨troubled, .never⟩ opening fit
  have empty : FaultyTarget.sink.writeText troubled "" = (troubled, .ok ()) := by
    rw [Sink.writeText, show "".toUTF8.data.toList = [] from rfl, Sink.writeAll]
  have rejected : (react FaultyTarget.sink ⟨troubled, .never⟩ (.groupStart "math" 0)).2 =
      .rejected .nothingTaken := by
    rw [react_eq _ _ (show (Event.groupStart "math" 0).Fits from rfl),
      print_of_ne _ _ _ (by decide), writeLines_eq_writeTexts]
    show Reaction.ofResult (FaultyTarget.sink.writeTexts troubled ["", "math", "\n"]).2 = _
    rw [Sink.writeTexts, empty]
    simp only
    rw [Sink.writeTexts, writeText_troubled]
    rfl
  refine ⟨fit, answered, ?_⟩
  show (rejection? (.groupStart "math" 0)
    (react FaultyTarget.sink ⟨troubled, .never⟩ (.groupStart "math" 0)).2).toList ++ [] = _
  rw [rejected]
  rfl

end Printer

end TestTree
