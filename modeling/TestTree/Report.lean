/-
This file defines what a run reports.

The report has the shape of the tree of groups that ran: each group has its own outcomes in the
order of its tests, the reports of its children, and a flag that says whether every test at or
below it passed. A test is looked up by the names on the way to it.
-/

import TestTree.Event
import TestTree.Panic.Payload

namespace TestTree

/-! ### Groups -/

/-- The report of a group. -/
structure ReportNode where
  name : Option String
  outcomes : List (String × Outcome)
  children : List ReportNode
  passed : Bool

namespace ReportNode

/-- The first child group of a name. -/
def group? (report : ReportNode) (name : String) : Option ReportNode :=
  report.children.find? fun child => child.name == some name

/-- The outcome of the first test of a name, among the tests of the group itself. -/
def outcome? (report : ReportNode) (name : String) : Option Outcome :=
  report.outcomes.lookup name

/-- Follow a path: all segments but the last name child groups, the last one names a test. -/
def find? (report : ReportNode) : List String → Option Outcome
  | [] => none
  | [test] => report.outcome? test
  | group :: rest => (report.group? group).bind fun child => child.find? rest

mutual

/-- The reports of a tree with their depths, each before its children. -/
def walk (depth : Nat) : ReportNode → List (Nat × ReportNode)
  | ⟨name, outcomes, children, passed⟩ =>
    (depth, ⟨name, outcomes, children, passed⟩) :: walkAll (depth + 1) children

/-- The reports of several trees with their depths, one tree after another. -/
def walkAll (depth : Nat) : List ReportNode → List (Nat × ReportNode)
  | [] => []
  | report :: rest => report.walk depth ++ walkAll depth rest

end

end ReportNode

/-! ### Runs -/

/-- The report of a run: the report of the root, the number of tests and of passed tests, and
the errors with which the formatter answered events, in the order of the events. -/
structure Report (Error : Type) where
  root : ReportNode
  total : Nat
  passed : Nat
  formatErrors : List (EventKind × Error)

namespace Report

variable {Error : Type}

/-- The number of tests that failed. -/
def failed (report : Report Error) : Nat := report.total - report.passed

/-- A run is a success if no test failed. -/
def isSuccess (report : Report Error) : Bool := report.failed = 0

/-- The exit code of a process that ends with this report. -/
def exitCode (report : Report Error) : Nat := if report.isSuccess then 0 else 1

/-- The number of failed tests of a report with any counts. Counts that do not fit together make
the subtraction panic. -/
def checkedFailed (report : Report Error) : Except Payload Nat :=
  if report.passed ≤ report.total then .ok report.failed
  else .error (.text "attempt to subtract with overflow")

end Report

/-! ### Questions -/

/-- A question about the report of a root group. -/
inductive Query where
  | path (segments : List String)
  | outcome (test : String)
  | group (name : String)

/-- The answer to a question. -/
inductive Answer where
  | outcome (found : Option Outcome)
  | group (found : Option ReportNode)

/-- Answer a question about a report. -/
def Query.ask (report : ReportNode) : Query → Answer
  | .path segments => .outcome (report.find? segments)
  | .outcome test => .outcome (report.outcome? test)
  | .group name => .group (report.group? name)

end TestTree
