/-
This file runs a suite from beginning to end.

A run holds a guard on the panic hook for its whole duration, if its boundary asks for one. It
tells the formatter of the start, executes the tree while the formatter works through the queued
events on a thread of its own, waits for that thread, tells the formatter of the end, and
reports. A run that panics drops its guard while it unwinds.
-/

import TestTree.Run.Execution
import TestTree.Formatter.Basic

namespace TestTree

/-- A suite with the strategies that it is run with: the boundary of its actions, and a formatter
in the state in which the run finds it. -/
structure Runner (State Kept Error : Type) where
  suite : Suite (Action State)
  boundary : Boundary
  formatter : Formatter Kept Error
  initial : Kept

/-- How a run ended: the state in which it left the formatter, and the report or the payload with
which the run panicked. -/
structure Conclusion (Kept Error : Type) where
  formatter : Kept
  result : Except Payload (Report Error)

namespace Runner

variable {State Kept Error : Type}

/-! ### The parts of a run -/

/-- The guard of a run is installed before everything else. -/
def guardUp (boundary : Boundary) : List Signal :=
  if boundary.silences then [.guardInstalled .main] else []

/-- The guard of a run is dropped after everything else. -/
def guardDown (boundary : Boundary) (unwinding : Bool) : List Signal :=
  if boundary.silences then [.guardReleased .main unwinding] else []

/-- End a run by a panic. -/
def abort (boundary : Boundary) (formatter : Kept) (signals : List Signal)
    (payload : Payload) : Future State (Conclusion Kept Error) :=
  Future.sendAll (signals ++ guardDown boundary true) (.ready ⟨formatter, .error payload⟩)

/-- The panic of a run whose formatter panicked on its thread. -/
def joinFailure : Payload := .text "format thread should join without issues: Any \x7b .. \x7d"

/-- The hook is called for the panic of a formatter on its own thread, if there was one. -/
def formatterPanic (panic : Option Payload) : List Signal :=
  match panic with
  | none => []
  | some payload => [.panicked .formatter payload]

/-- The report of a run that completed. -/
def report (root : ReportNode) (tally : Tally) (delivery : Formatter.Delivery Kept Error) :
    Report Error :=
  ⟨root, tally.total, tally.passed, delivery.errors⟩

/-- The counts of a run for its last event. Runs are not timed, so the duration is zero. -/
def summary (tally : Tally) : Summary :=
  ⟨tally.total, tally.passed, tally.total - tally.passed, 0⟩

/-- The record of the end of a run. -/
def finished (tally : Tally) : LogRecord :=
  .runFinished tally.total tally.passed (tally.total - tally.passed)

/-- What follows when the formatter has worked through the queue: the last event and the report,
or the panic of whoever panicked. The panic of an action comes before that of the formatter. -/
def conclude (runner : Runner State Kept Error) (delivery : Formatter.Delivery Kept Error)
    (result : Except Payload ReportNode) (tally : Tally) :
    Future State (Conclusion Kept Error) :=
  let notes := formatterPanic delivery.panic
  match result, delivery.panic with
  | .error payload, _ => abort runner.boundary delivery.state notes payload
  | .ok _, some _ =>
    abort runner.boundary delivery.state (notes ++ [.panicked .main joinFailure]) joinFailure
  | .ok root, none =>
    let last := runner.formatter.deliver delivery (.runOutcomes (summary tally))
    Future.send (.logged (finished tally)) (match last.panic with
      | some payload => abort runner.boundary last.state [.panicked .main payload] payload
      | none => Future.sendAll (guardDown runner.boundary false)
          (.ready ⟨last.state, .ok (report root tally last)⟩))

/-! ### Runs -/

/-- Run a suite and tell how it ended. This never unwinds: a panic of the run is part of its
conclusion. No test is called if the formatter panics at the first event. -/
def conduct (runner : Runner State Kept Error) : Future State (Conclusion Kept Error) :=
  Future.sendAll (guardUp runner.boundary) (
    let opening := runner.formatter.deliver ⟨runner.initial, [], none⟩
      (.runStart runner.suite.testCount)
    match opening.panic with
    | some payload => abort runner.boundary opening.state [.panicked .main payload] payload
    | none =>
      (Execution.executeGroup runner.boundary 0 runner.suite.root).start.bind fun ended =>
        runner.conclude (runner.formatter.deliverAll opening ended.2.queue) ended.1 ended.2)

/-- Run a suite and return its report. A panic of the run unwinds. -/
def run (runner : Runner State Kept Error) : Future State (Report Error) :=
  runner.conduct.bind fun conclusion => .ofExcept conclusion.result

end Runner

end TestTree
