/-
This file proves that what is printed during a run is what its report looks like when it is
printed as a whole.

The printer sees one event after another and remembers nothing. A report can be printed by
recursion on its groups instead: the name of a group, its tests with everything that is known about
their failures, and its children. A run that returns a report to a sink that takes everything has
written exactly this text, with the counts behind it.
-/

import TestTree.Proofs.Formatter.Printing
import TestTree.Proofs.Run.Tracking
import TestTree.Proofs.Text.Lines

namespace TestTree

open Text

/-! ### Reports as texts -/

/-- One line at a depth. -/
def Text.row (depth : Nat) (text : String) : String := indentation depth ++ text ++ "\n"

/-- The lines of a message at a depth, and a blank one if it has none. -/
def Text.rows (depth : Nat) (message : String) : String :=
  match lines message with
  | [] => row depth ""
  | pieces => String.join (pieces.map (row depth))

/-- The message of a failure at a depth, if there is a failure. -/
def Failure.render? (depth : Nat) : Option Failure → String
  | none => ""
  | some failure => rows depth failure.display

/-- A test with its mark, and below it the message of its failure and that of its hook after it. -/
def Outcome.render (depth : Nat) (name : String) (outcome : Outcome) : String :=
  row depth ((if outcome.isPassed then "✓ " else "✗ ") ++ name) ++
    Failure.render? (depth + 1) outcome.status.failure? ++
    Failure.render? (depth + 1) outcome.teardown

namespace ReportNode

/-- The name of a group at a depth. The root has none. -/
def headline (depth : Nat) : Option String → String
  | none => ""
  | some name => row depth name

mutual

/-- A group at a depth: its name, its tests, its children. -/
def render (depth : Nat) : ReportNode → String
  | ⟨name, outcomes, children, _⟩ =>
    headline depth name ++
      String.join (outcomes.map fun entry => entry.2.render (depth + 1) entry.1) ++
      renderAll (depth + 1) children

/-- Several groups at a depth, one after another. -/
def renderAll (depth : Nat) : List ReportNode → String
  | [] => ""
  | report :: rest => report.render depth ++ renderAll depth rest

end

end ReportNode

/-- A report: its groups, a blank line, and the counts. -/
def Report.render {Error : Type} (report : Report Error) : String :=
  report.root.render 0 ++ row 0 "" ++ row 0 "--- Test Summary ---" ++
    row 0 ("Total Tests: " ++ toString report.total) ++
    row 0 ("Passed: " ++ toString report.passed) ++
    row 0 ("Failed: " ++ toString report.failed)

/-! ### The texts of events -/

theorem Text.Line.render_plain (line : Line) : line.render false = line.text ++ "\n" := by
  obtain ⟨color, pieces⟩ := line
  cases color <;> rfl

namespace Printer

/-- Lines printed without colors. -/
def plain (lines : List Line) : String := String.join (lines.map (Line.render false))

theorem plain_append (first second : List Line) :
    plain (first ++ second) = plain first ++ plain second := by
  rw [plain, List.map_append, String.join_append]
  rfl

theorem plain_singleton (color : Option Color) (pieces : List String) :
    plain [⟨color, pieces⟩] = String.join pieces ++ "\n" := by
  rw [plain, List.map_singleton, String.join_cons, String.join_nil, String.append_empty,
    Line.render_plain]
  rfl

theorem plain_messageLines (depth : Nat) (message : String) :
    plain (messageLines (indentation depth) message) = rows depth message := by
  unfold messageLines rows
  by_cases empty : message.isEmpty = true
  · rw [if_pos empty, (lines_eq_nil_iff message).mpr empty, plain_singleton]
    simp only [String.join_cons, String.join_nil, String.append_empty, row]
  · have filled : lines message ≠ [] := mt (lines_eq_nil_iff message).mp empty
    rw [if_neg empty]
    have each : ∀ pieces : List String,
        plain (pieces.map fun text => ⟨some .gray, [indentation depth, text]⟩) =
          String.join (pieces.map (row depth)) := by
      intro pieces
      rw [plain, List.map_map]
      refine congrArg String.join (List.map_congr_left fun text _ => ?_)
      simp only [Function.comp, Line.render_plain, Line.text, String.join_cons, String.join_nil,
        String.append_empty, row]
    rw [each]
    cases same : lines message with
    | nil => exact absurd same filled
    | cons first others => rfl

theorem plain_outcomeLines (depth : Nat) (name : String) (outcome : Outcome) :
    plain (outcomeLines (indentation depth) (indentation (depth + 1)) name outcome) =
      outcome.render depth name := by
  obtain ⟨status, teardown⟩ := outcome
  have own : plain (statusLines (indentation depth) (indentation (depth + 1)) name status) =
      row depth ((if status.isPassed then "✓ " else "✗ ") ++ name) ++
        Failure.render? (depth + 1) status.failure? := by
    cases status with
    | passed =>
      rw [statusLines, plain_singleton]
      simp only [String.join_cons, String.join_nil, String.append_empty, row, Status.isPassed,
        Status.failure?, Failure.render?, if_true, String.append_assoc]
    | failed failure =>
      rw [statusLines, ← List.singleton_append, plain_append, plain_singleton, failureLines,
        plain_messageLines]
      simp only [String.join_cons, String.join_nil, String.append_empty, row, Status.isPassed,
        Status.failure?, Failure.render?, Bool.false_eq_true, if_false, String.append_assoc]
  rw [outcomeLines, plain_append, own]
  cases teardown with
  | none => rfl
  | some failure =>
    simp only
    rw [failureLines, plain_messageLines]
    rfl

theorem eventLines_groupStart {name : String} {depth : Nat}
    (fit : (Event.groupStart name depth).Fits) :
    eventLines (.groupStart name depth) = [groupLine (indentation depth) name] := by
  have fit : fits depth = true := fit
  simp only [eventLines, linesOf, indent, fit, if_true]
  rfl

theorem eventLines_testOutcome {name : String} {depth : Nat} {outcome : Outcome}
    (fit : (Event.testOutcome name depth outcome).Fits) :
    eventLines (.testOutcome name depth outcome) =
      outcomeLines (indentation depth) (indentation (depth + 1)) name outcome := by
  have fit : fits (depth + 1) = true := fit
  simp only [eventLines, linesOf, indent, fit, fits_of_succ fit, if_true]
  rfl

theorem rendering_groupStart {name : String} {depth : Nat}
    (fit : (Event.groupStart name depth).Fits) :
    rendering false (.groupStart name depth) = row depth name := by
  show plain (eventLines (.groupStart name depth)) = _
  rw [eventLines_groupStart fit, groupLine, plain_singleton]
  simp only [String.join_cons, String.join_nil, String.append_empty, row]

theorem rendering_testOutcome {name : String} {depth : Nat} {outcome : Outcome}
    (fit : (Event.testOutcome name depth outcome).Fits) :
    rendering false (.testOutcome name depth outcome) = outcome.render depth name := by
  show plain (eventLines (.testOutcome name depth outcome)) = _
  rw [eventLines_testOutcome fit]
  exact plain_outcomeLines depth name outcome

theorem rendering_runOutcomes (summary : Summary) :
    rendering false (.runOutcomes summary) =
      row 0 "" ++ row 0 "--- Test Summary ---" ++
        row 0 ("Total Tests: " ++ toString summary.total) ++
        row 0 ("Passed: " ++ toString summary.passed) ++
        row 0 ("Failed: " ++ toString summary.failed) := by
  have unindented : ∀ text, row 0 text = text ++ "\n" := fun text => by
    rw [row]
    exact congrArg (· ++ "\n") (String.empty_append (s := text))
  show plain (summaryLines summary) = _
  simp only [summaryLines, plain, List.map_cons, List.map_nil, Line.render_plain, Line.text,
    String.join_cons, String.join_nil, String.append_empty, unindented, String.append_assoc]

theorem join_header {name : Option String} {depth : Nat}
    (fit : ∀ event ∈ ReportNode.header name depth, event.Fits) :
    String.join ((ReportNode.header name depth).map (rendering false)) =
      ReportNode.headline depth name := by
  cases name with
  | none => rfl
  | some name =>
    rw [ReportNode.header, List.map_singleton, String.join_cons, String.join_nil,
      String.append_empty]
    exact rendering_groupStart (fit _ List.mem_cons_self)

theorem join_outcomeEvents {depth : Nat} (outcomes : List (String × Outcome))
    (fit : ∀ event ∈ ReportNode.outcomeEvents depth outcomes, event.Fits) :
    String.join ((ReportNode.outcomeEvents depth outcomes).map (rendering false)) =
      String.join (outcomes.map fun entry => entry.2.render depth entry.1) := by
  rw [ReportNode.outcomeEvents, List.map_map]
  refine congrArg String.join (List.map_congr_left fun entry member => ?_)
  exact rendering_testOutcome (fit _ (List.mem_map_of_mem member))

end Printer

namespace ReportNode

mutual

/-- The events of a group, printed one after another, make the text of the group. -/
theorem join_events (depth : Nat) : (report : ReportNode) →
    (∀ event ∈ report.events depth, event.Fits) →
      String.join ((report.events depth).map (Printer.rendering false)) = report.render depth
  | ⟨name, outcomes, children, passed⟩, fit => by
    rw [events_mk] at fit ⊢
    obtain ⟨own, below⟩ := List.forall_mem_append.mp fit
    obtain ⟨first, tests⟩ := List.forall_mem_append.mp own
    rw [List.map_append, List.map_append, String.join_append, String.join_append,
      Printer.join_header first, Printer.join_outcomeEvents outcomes tests,
      join_flatMap_events (depth + 1) children below, render]

theorem join_flatMap_events (depth : Nat) : (reports : List ReportNode) →
    (∀ event ∈ reports.flatMap (events depth), event.Fits) →
      String.join ((reports.flatMap (events depth)).map (Printer.rendering false)) =
        renderAll depth reports
  | [], _ => rfl
  | report :: rest, fit => by
    rw [List.flatMap_cons] at fit ⊢
    obtain ⟨own, others⟩ := List.forall_mem_append.mp fit
    rw [List.map_append, String.join_append, join_events depth report own,
      join_flatMap_events depth rest others, renderAll]

end

/-- The story of a report, printed one event after another, makes the text of the report. -/
theorem join_story {Error : Type} {report : Report Error}
    (total : report.total = report.root.outcomesBelow.length)
    (passed : report.passed = report.root.passedCount)
    (fit : ∀ event ∈ report.root.story, event.Fits) :
    String.join (report.root.story.map (Printer.rendering false)) = report.render := by
  obtain ⟨_, others⟩ := List.forall_mem_cons.mp fit
  obtain ⟨inner, _⟩ := List.forall_mem_append.mp others
  have opening : Printer.rendering false (.runStart report.root.outcomesBelow.length) = "" := rfl
  rw [story, List.cons_append, List.map_cons, List.map_append, List.map_singleton,
    String.join_cons, String.join_append, join_events 0 report.root inner, opening,
    String.join_cons, String.join_nil, Printer.rendering_runOutcomes, summary, Report.render,
    Report.failed, total, passed]
  simp only [String.empty_append, String.append_empty, String.append_assoc]

end ReportNode

/-! ### Printing to a sink that takes everything -/

namespace Printer

variable {Target : Type} {sink : Sink Target} {IsOpen : Target → Prop}
  {written : Target → List UInt8}

open Formatter Sink

/-- Flushing an open target does not change whether lines are colored. -/
def Steady (sink : Sink Target) (IsOpen : Target → Prop) (setting : Coloring) : Prop :=
  ∀ {target}, IsOpen target →
    setting.use (sink.supportsColor (sink.flush target).1) = setting.use (sink.supportsColor target)

theorem added_react (accepting : sink.Accepting IsOpen written) {target : Target}
    (isOpen : IsOpen target) {setting : Coloring} (steady : Steady sink IsOpen setting)
    {event : Event} (fit : event.Fits) :
    ∃ left, react sink ⟨target, setting⟩ event = (⟨left, setting⟩, .accepted) ∧ IsOpen left ∧
      useColor sink ⟨left, setting⟩ = useColor sink ⟨target, setting⟩ ∧
      written left =
        written target ++ bytes (rendering (useColor sink ⟨target, setting⟩) event) := by
  have color := sink.supportsColor_writeTexts target
    ((eventLines event).flatMap (Line.chunks (useColor sink ⟨target, setting⟩)))
  have added := added_writeTexts accepting isOpen
    ((eventLines event).flatMap (Line.chunks (useColor sink ⟨target, setting⟩)))
  rw [bytes_chunks] at added
  rw [react_eq _ _ fit, print, writeLines_eq_writeTexts]
  cases ended : sink.writeTexts target
      ((eventLines event).flatMap (Line.chunks (useColor sink ⟨target, setting⟩))) with
  | mk left result =>
    rw [ended] at added color
    obtain ⟨succeeded, opened, taken⟩ := added
    cases succeeded
    have sameColor : useColor sink ⟨left, setting⟩ = useColor sink ⟨target, setting⟩ :=
      congrArg setting.use color
    simp only
    by_cases last : event.kind = .runOutcomes
    · simp only [if_pos last, flush, accepting.flush_ok opened]
      exact ⟨_, rfl, accepting.flush_isOpen opened, (steady opened).trans sameColor,
        (accepting.flush_written opened).trans taken⟩
    · simp only [if_neg last]
      exact ⟨left, rfl, opened, sameColor, taken⟩

/-- A sink that takes everything has no errors, and it has taken the text of each event, colored
as it was at first. -/
theorem added_deliverAll_of_steady (accepting : sink.Accepting IsOpen written) {target : Target}
    (isOpen : IsOpen target) {setting : Coloring} (steady : Steady sink IsOpen setting)
    (earlier : List (EventKind × IoError)) (events : List Event)
    (fit : ∀ event ∈ events, event.Fits) :
    ∃ left, (formatter sink).deliverAll ⟨⟨target, setting⟩, earlier, none⟩ events =
        ⟨⟨left, setting⟩, earlier, none⟩ ∧
      written left = written target ++
        bytes (String.join (events.map (rendering (useColor sink ⟨target, setting⟩)))) := by
  induction events generalizing target with
  | nil => exact ⟨target, rfl, (List.append_nil _).symm⟩
  | cons event rest inductionHypothesis =>
    obtain ⟨own, others⟩ := List.forall_mem_cons.mp fit
    obtain ⟨between, reacted, opened, color, taken⟩ := added_react accepting isOpen steady own
    obtain ⟨left, delivered, alsoTaken⟩ := inductionHypothesis opened others
    refine ⟨left, ?_, ?_⟩
    · show (formatter sink).deliverAll ((formatter sink).deliver _ event) rest = _
      rw [deliver_of_fits sink _ earlier own, reacted]
      simp only [rejection?, Option.toList_none, List.append_nil]
      exact delivered
    · rw [alsoTaken, taken, color, List.map_cons, String.join_cons, bytes_append,
        List.append_assoc]

/-- Without colors the target does not matter. -/
theorem added_deliverAll (accepting : sink.Accepting IsOpen written) {target : Target}
    (isOpen : IsOpen target) (earlier : List (EventKind × IoError)) (events : List Event)
    (fit : ∀ event ∈ events, event.Fits) :
    ∃ left, (formatter sink).deliverAll ⟨⟨target, .never⟩, earlier, none⟩ events =
        ⟨⟨left, .never⟩, earlier, none⟩ ∧
      written left = written target ++ bytes (String.join (events.map (rendering false))) :=
  added_deliverAll_of_steady accepting isOpen (fun _ => rfl) earlier events fit

end Printer

/-! ### Runs that print -/

namespace ReportNode

mutual

/-- The events of a report fit if the depths of the tree that ran leave room for two levels. -/
theorem fits_events {Action : Type} (depth : Nat) :
    (group : Group Action) → (report : ReportNode) → report.outline = group.outline →
      (∀ entry ∈ group.walk depth, fits (entry.1 + 2) = true) →
        ∀ event ∈ report.events depth, event.Fits
  | ⟨_, tests, groups, hooks⟩, ⟨name, outcomes, children, passed⟩, same, fit => by
    rw [outline, Group.outline, Outline.mk.injEq] at same
    rw [Group.walk] at fit
    obtain ⟨own, below⟩ := List.forall_mem_cons.mp fit
    have own : fits (depth + 2) = true := own
    rw [events_mk]
    refine List.forall_mem_append.mpr ⟨List.forall_mem_append.mpr ⟨?_, ?_⟩,
      fits_flatMap_events (depth + 1) groups children same.2.2 below⟩
    · intro event member
      cases name with
      | none => exact absurd member List.not_mem_nil
      | some name =>
        obtain rfl := List.mem_singleton.mp member
        exact Printer.fits_of_succ (Printer.fits_of_succ own)
    · intro event member
      obtain ⟨entry, _, rfl⟩ := List.mem_map.mp member
      exact own

theorem fits_flatMap_events {Action : Type} (depth : Nat) :
    (groups : List (Group Action)) → (reports : List ReportNode) →
      outlines reports = Group.outlines groups →
      (∀ entry ∈ Group.walkAll depth groups, fits (entry.1 + 2) = true) →
        ∀ event ∈ reports.flatMap (events depth), event.Fits
  | [], [], _, _ => fun event member => absurd member List.not_mem_nil
  | group :: groups, report :: reports, same, fit => by
    rw [outlines, Group.outlines, List.cons.injEq] at same
    rw [Group.walkAll] at fit
    obtain ⟨own, others⟩ := List.forall_mem_append.mp fit
    rw [List.flatMap_cons]
    exact List.forall_mem_append.mpr ⟨fits_events depth group report same.1 own,
      fits_flatMap_events depth groups reports same.2 others⟩

end

end ReportNode

namespace Printer

variable {Target State : Type} {sink : Sink Target}

open Formatter

/-- A run that isolates its actions and prints with indentations that fit returns a report. -/
theorem yields_run_of_fits (suite : Suite (Action State)) (silent : Bool)
    (printer : Printer Target) (fit : ∀ entry ∈ suite.root.walk 0, fits (entry.1 + 2) = true)
    (before : State) :
    let runner := Runner.mk suite (.isolating silent) (formatter sink) printer
    runner.run.Yields before (runner.reportOf (Course.group Action.answer suite.root before).2)
      (Course.group Action.answer suite.root before).1 := by
  obtain ⟨tally, executed⟩ := Execution.yields_executeGroup silent 0 suite.root before .zero
  obtain ⟨_, outline, _⟩ := Execution.credit_executeGroup suite.root executed
  have inner := ReportNode.fits_events 0 suite.root _ outline fit
  have story : ∀ event ∈ (Course.group Action.answer suite.root before).2.story, event.Fits := by
    refine List.forall_mem_cons.mpr ⟨trivial, List.forall_mem_append.mpr ⟨inner, ?_⟩⟩
    exact fun event last => List.mem_singleton.mp last ▸ trivial
  refine (Runner.yields_run_root_iff _ _ _ _).mpr ⟨_, tally, executed, ?_, rfl⟩
  exact congrArg Delivery.panic (deliverAll_eq sink printer [] _ story)

/-- When a run that prints without colors to a sink that takes everything returns, the sink has
taken the text of the returned report and nothing else, colors are as they were, and the report has
the names of the suite. -/
theorem taken_of_conducted {IsOpen : Target → Prop} {written : Target → List UInt8}
    (accepting : sink.Accepting IsOpen written) {target left : Target} (isOpen : IsOpen target)
    {suite : Suite (Action State)} {boundary : Boundary} {setting : Coloring}
    {before after : State} {report : Report IoError}
    (conducted : (Runner.mk suite boundary (formatter sink) ⟨target, .never⟩).conduct.Yields
      before ⟨⟨left, setting⟩, .ok report⟩ after) :
    setting = .never ∧ written left = written target ++ bytes report.render ∧
      report.root.outline = suite.root.outline := by
  obtain ⟨root, tally, executed, endures, kept, same⟩ :=
    (Runner.yields_conduct_iff _ _ _ _ _).mp conducted
  obtain ⟨_, outline, _⟩ := Execution.credit_executeGroup suite.root executed
  obtain ⟨story, total, passed⟩ := Runner.told_eq_story executed
  rw [story] at endures kept same
  have fit : ∀ event ∈ root.story, event.Fits :=
    fits_of_deliverAll sink ⟨target, .never⟩ [] root.story endures
  obtain ⟨ended, delivered, added⟩ := added_deliverAll accepting isOpen [] root.story fit
  simp only [fresh, delivered, Printer.mk.injEq] at kept
  obtain ⟨rfl, rfl⟩ := kept
  obtain rfl : report.root = root := congrArg Report.root same
  have text := ReportNode.join_story ((congrArg Report.total same).trans total)
    ((congrArg Report.passed same).trans passed) fit
  exact ⟨rfl, text ▸ added, outline⟩

/-- When a run that prints without colors to a sink that takes everything returns, the sink has
taken the text of the returned report and nothing else. A run that isolates its actions does
return, and the messages in the text are split into the lines that they consist of. -/
theorem printed_eq_render {IsOpen : Target → Prop} {written : Target → List UInt8}
    (accepting : sink.Accepting IsOpen written) {target : Target} (isOpen : IsOpen target)
    (suite : Suite (Action State)) (boundary : Boundary) (before : State) :
    (∀ report after,
      (Runner.mk suite boundary (formatter sink) ⟨target, .never⟩).run.Yields before report after →
        ∃ left,
          (Runner.mk suite boundary (formatter sink) ⟨target, .never⟩).conduct.Yields before
            ⟨⟨left, .never⟩, .ok report⟩ after ∧
          written left = written target ++ bytes report.render) ∧
      (boundary ≠ .transparent → (∀ entry ∈ suite.root.walk 0, fits (entry.1 + 2) = true) →
        ∃ report after,
          (Runner.mk suite boundary (formatter sink) ⟨target, .never⟩).run.Yields before report
            after) ∧
      ∀ message pieces,
        SplitsInto message.toList pieces ↔ (lines message).map String.toList = pieces := by
  refine ⟨fun report after returned => ?_, fun isolates fit => ?_, splitsInto_lines_iff⟩
  · obtain ⟨⟨left, setting⟩, conducted⟩ := (Runner.yields_run_iff _ _ _ _).mp returned
    obtain ⟨rfl, taken, _⟩ := taken_of_conducted accepting isOpen conducted
    exact ⟨left, conducted, taken⟩
  · cases boundary with
    | transparent => exact absurd rfl isolates
    | isolating silent => exact ⟨_, _, yields_run_of_fits suite silent ⟨target, .never⟩ fit before⟩

/-! ### Targets without troubles -/

/-- A target without troubles takes at least one byte at a time. -/
structure Untroubled (target : FaultyTarget) : Prop where
  faults : target.faults = []
  chunk : target.chunk ≠ some 0
  flushFailure : target.flushFailure = none

theorem offer_untroubled {target : FaultyTarget} (untroubled : Untroubled target) (first : UInt8)
    (rest : List UInt8) : ∃ count,
      target.offer (first :: rest) =
        ({ target with written := target.written ++ (first :: rest).take (count + 1) },
          .taken (count + 1)) := by
  have positive : 0 < target.limit (first :: rest).length := by
    have chunk := untroubled.chunk
    simp only [FaultyTarget.limit, untroubled.faults, Fault.room, List.filter_nil, List.map_nil,
      List.min?_nil, Option.getD_none, List.length_cons]
    cases same : target.chunk with
    | none =>
      simp only [Option.getD_none]
      omega
    | some size =>
      have size_ne : size ≠ 0 := fun zero => chunk (same.trans (congrArg some zero))
      simp only [Option.getD_some]
      omega
  obtain ⟨count, count_eq⟩ := Nat.exists_eq_succ_of_ne_zero (Nat.ne_of_gt positive)
  refine ⟨count, ?_⟩
  simp only [FaultyTarget.offer, untroubled.faults, Fault.strike, count_eq, Nat.succ_eq_add_one]

/-- From a target without troubles on, everything is taken. -/
theorem accepting_untroubled :
    FaultyTarget.sink.Accepting Untroubled fun target => target.written.toList where
  smooth first rest untroubled := by
    obtain ⟨count, offered⟩ := offer_untroubled untroubled first rest
    simp only [FaultyTarget.sink, offered]
    exact ⟨rfl, rfl⟩
  offer_isOpen first rest untroubled := by
    obtain ⟨count, offered⟩ := offer_untroubled untroubled first rest
    simp only [FaultyTarget.sink, offered]
    exact ⟨untroubled.faults, untroubled.chunk, untroubled.flushFailure⟩
  offer_written first rest untroubled := by
    obtain ⟨count, offered⟩ := offer_untroubled untroubled first rest
    simp only [FaultyTarget.sink, offered, Request.taken]
    exact Array.toList_appendList
  flush_isOpen untroubled := ⟨untroubled.faults, untroubled.chunk, untroubled.flushFailure⟩
  flush_written _ := rfl
  flush_ok untroubled := by
    simp only [FaultyTarget.sink, FaultyTarget.flush, untroubled.flushFailure]

/-- A suite with messages of every shape: without any text, with both kinds of endings, and with a
carriage return that ends no line. -/
def talkative : Suite (Action Unit) :=
  ⟨⟨none, [⟨"silent", .blocking (pure (.error ""))⟩],
    [⟨some "math", [⟨"adds", .blocking (pure .success)⟩,
      ⟨"fails", .blocking (pure (.error "left\r\n\nright\r"))⟩], [],
      ⟨none, some (.blocking (pure (.error "late\n")))⟩⟩], .empty⟩⟩

/-- What is printed for this suite. -/
def talkativeText : String :=
  "  ✗ silent\n    \n  math\n    ✓ adds\n      after each hook: late\n    ✗ fails\n      left\n" ++
    "      \n      right\r\n      after each hook: late\n\n--- Test Summary ---\n" ++
    "Total Tests: 3\nPassed: 1\nFailed: 2\n"

/-- A target that takes two bytes at a time. -/
def slow : FaultyTarget := ⟨true, some 2, none, [], #[], 0⟩

theorem printed_eq_render_talkative :
    Untroubled slow ∧ ∃ report after left,
      (Runner.mk talkative .standard (formatter FaultyTarget.sink) ⟨slow, .never⟩).conduct.Yields ()
        ⟨⟨left, .never⟩, .ok report⟩ after ∧ left.written.toList = bytes talkativeText := by
  have untroubled : Untroubled slow := ⟨rfl, by decide, rfl⟩
  obtain ⟨prints, _, _⟩ :=
    printed_eq_render accepting_untroubled untroubled talkative .standard ()
  have fit : ∀ entry ∈ talkative.root.walk 0, fits (entry.1 + 2) = true := by decide
  obtain ⟨left, conducted, taken⟩ :=
    prints _ _ (yields_run_of_fits talkative true ⟨slow, .never⟩ fit ())
  refine ⟨untroubled, _, _, left, conducted, taken.trans ?_⟩
  have text : (Runner.reportOf (Runner.mk talkative .standard (formatter FaultyTarget.sink)
      ⟨slow, .never⟩) (Course.group Action.answer talkative.root ()).2).render = talkativeText := by
    decide +kernel
  exact congrArg bytes text

end Printer

end TestTree
