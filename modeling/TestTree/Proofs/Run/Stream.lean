/-
This file proves that the events of a run and its report encode each other.

Between the first and the last event a formatter is told of groups and outcomes, and these events
are the walk of the report of the root. The walk can be read back, so nothing in a report is
missing from its events: two runs that tell the same have the same report of the root, flags
included, whatever their suites and their actions are.
-/

import TestTree.Proofs.Registration.Rooted
import TestTree.Proofs.Run.Counts

namespace TestTree

/-- Whether an event is about a group or a test. -/
def Event.isInner (event : Event) : Bool :=
  match event with
  | .groupStart .. => true
  | .testOutcome .. => true
  | _ => false

theorem Event.isInner_iff (event : Event) :
    event.isInner = true ↔ event.kind = .groupStart ∨ event.kind = .testOutcome := by
  cases event <;> simp only [isInner, kind, reduceCtorEq, or_false, or_true, or_self,
    Bool.false_eq_true]

namespace Runner

open Future

variable {State Kept Error : Type}

/-- The events about groups and tests that the formatter of a run is told of. -/
def stream (runner : Runner State Kept Error) (state : State) : List Event :=
  (runner.delivered state).filter Event.isInner

/-- A run that returns a report has told the walk of its root, and the report mirrors the suite. -/
theorem stream_eq_events {runner : Runner State Kept Error} {state : State}
    {report : Report Error} (returned : (runner.run.complete state).result = .ok report) :
    runner.stream state = report.root.events 0 ∧
      report.root.outline = runner.suite.root.outline ∧ report.root.Candid := by
  have yields : runner.run.Yields state report _ := Yields.of_result returned
  have told := delivered_eq_story yields
  obtain ⟨root, tally, executed, _, rfl⟩ := (yields_run_root_iff runner _ state _).mp yields
  obtain ⟨_, outline, candid⟩ := Execution.credit_executeGroup runner.suite.root executed
  refine ⟨?_, outline, candid⟩
  have inner : (root.events 0).filter Event.isInner = root.events 0 :=
    List.filter_eq_self.mpr fun event member =>
      (Event.isInner_iff event).mpr ((countP_events root 0).1 event member)
  rw [stream, told]
  show (ReportNode.story root).filter Event.isInner = root.events 0
  rw [ReportNode.story, List.cons_append, List.filter_cons_of_neg Bool.false_ne_true,
    List.filter_append, inner, List.filter_cons_of_neg Bool.false_ne_true, List.filter_nil,
    List.append_nil]

/-- The stream of a run is the walk of the report of its root, the report has the names of the
suite in the order of the suite, and the stream is decoded to the report. Another run with the
same stream has the same report of its root. -/
theorem stream_determines_root (runner : Runner State Kept Error) (state : State)
    (report : Report Error) (returned : (runner.run.complete state).result = .ok report)
    (rooted : runner.suite.root.outline.Rooted) :
    runner.stream state = report.root.events 0 ∧
      report.root.outline = runner.suite.root.outline ∧
      ReportNode.decode (runner.stream state) = report.root ∧
      ∀ {OtherState OtherKept OtherError : Type} (other : Runner OtherState OtherKept OtherError)
        (otherState : OtherState) (otherReport : Report OtherError),
        (other.run.complete otherState).result = .ok otherReport →
        other.suite.root.outline.Rooted →
        other.stream otherState = runner.stream state → otherReport.root = report.root := by
  obtain ⟨stream, outline, candid⟩ := stream_eq_events returned
  have decoded : ReportNode.decode (runner.stream state) = report.root := by
    rw [stream]
    exact ReportNode.decode_events candid (outline ▸ rooted)
  refine ⟨stream, outline, decoded, ?_⟩
  intro _ _ _ other otherState otherReport otherReturned otherRooted same
  obtain ⟨otherStream, otherOutline, otherCandid⟩ := stream_eq_events otherReturned
  rw [← decoded, ← same, otherStream]
  exact (ReportNode.decode_events otherCandid (otherOutline ▸ otherRooted)).symm

/-- A body that registers groups with equal and with empty names, side by side and nested. -/
def repetitive : List (Statement (Action Nat)) :=
  [.describe "" [.it "" (.blocking (pure .success)), .describe "" []],
    .describe "" [.it "" (.blocking (pure (.error "no"))), .describe "" [.describe "" []]],
    .it "" (.blocking (pure .success))]

/-- The suite of the repetitive body. -/
def repetitiveSuite : Suite (Action Nat) :=
  ⟨⟨none, [⟨"", .blocking (pure .success)⟩],
    [⟨some "", [⟨"", .blocking (pure .success)⟩], [⟨some "", [], [], .empty⟩], .empty⟩,
      ⟨some "", [⟨"", .blocking (pure (.error "no"))⟩],
        [⟨some "", [], [⟨some "", [], [], .empty⟩], .empty⟩], .empty⟩], .empty⟩⟩

/-- A run of the repetitive suite. -/
def repetitiveRunner : Runner Nat Unit Empty := ⟨repetitiveSuite, .standard, .silent, ()⟩

/-- The report of the repetitive suite. -/
def repetitiveReport : Report Empty :=
  ⟨⟨none, [("", ⟨.passed, none⟩)],
    [⟨some "", [("", ⟨.passed, none⟩)], [⟨some "", [], [], true⟩], true⟩,
      ⟨some "", [("", ⟨.failed ⟨.test, .error "no"⟩, none⟩)],
        [⟨some "", [], [⟨some "", [], [], true⟩], true⟩], false⟩], false⟩, 3, 2, []⟩

theorem stream_determines_root_repetitive :
    (Statement.session repetitive).outcome = .ok repetitiveSuite ∧
      (repetitiveRunner.run.complete 0).result = .ok repetitiveReport ∧
      ReportNode.decode (repetitiveRunner.stream 0) = repetitiveReport.root :=
  ⟨rfl, rfl, (stream_determines_root repetitiveRunner 0 repetitiveReport rfl
    (Registration.rooted_of_session (show (Statement.session repetitive).outcome = _ from rfl))).2.2.1⟩

end Runner

end TestTree
