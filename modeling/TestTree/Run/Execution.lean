/-
This file executes the tests of a tree.

Groups are executed depth first: a group announces itself, runs its own tests in order, and then
executes its children. A test is its group's before-each hook, its action if the hook did not
fail, and its group's after-each hook in any case. Events are queued for the formatter and
nobody waits for it. A panic that the boundary lets through ends the execution at once, and
what was queued and counted so far is kept.
-/

import TestTree.Panic.Boundary
import TestTree.Suite
import TestTree.Event
import TestTree.Report

namespace TestTree

/-! ### What an execution keeps -/

/-- The counts and the queued events of an execution. -/
structure Tally where
  total : Nat
  passed : Nat
  queue : List Event

/-- Nothing counted and nothing queued. -/
def Tally.zero : Tally := ⟨0, 0, []⟩

/-- A part of an execution is a future that also works on the tally. A panic leaves the tally as
it is at that moment. -/
abbrev Execution (State : Type) : Type → Type := Future (State × Tally)

namespace Execution

variable {State Value : Type}

/-- Run an execution from nothing. The result has the tally beside the value or the panic. -/
def start (execution : Execution State Value) : Future State (Except Payload Value × Tally) :=
  execution.collect .zero

/-- Wait for a future, which does not see the tally. -/
def await (future : Future State Value) : Execution State Value := future.onFirst

/-- Write a record to the log. -/
def log (record : LogRecord) : Execution State Unit := .send (.logged record) (.ready ())

/-- Change the tally. -/
def recount (change : Tally → Tally) : Execution State Unit :=
  Future.modify fun state => (state.1, change state.2)

/-- Queue an event for the formatter. -/
def announce (event : Event) : Execution State Unit :=
  recount fun tally => { tally with queue := tally.queue ++ [event] }

/-- Count a test before it runs. -/
def countTest : Execution State Unit :=
  recount fun tally => { tally with total := tally.total + 1 }

/-- Count a test that passed. -/
def countPassed : Execution State Unit :=
  recount fun tally => { tally with passed := tally.passed + 1 }

/-- Create a span and execute within it. -/
def within (name : String) (depth : Nat) (execution : Execution State Value) :
    Execution State Value :=
  .send (.spanCreated name depth) (execution.instrument name)

/-! ### Tests -/

/-- Call an action through the boundary and wait for its result. -/
def perform (boundary : Boundary) (action : Action State) :
    Execution State (Except Cause Unit) :=
  await (boundary.enclose action.call).follow

/-- Run the hook in a slot, if there is one. -/
def runHook (boundary : Boundary) (hooks : Hooks (Action State)) (slot : HookSlot) :
    Execution State (Option Failure) :=
  match hooks.get? slot with
  | none => return none
  | some hook => do
    match ← perform boundary hook with
    | .ok () => return none
    | .error cause => return some ⟨slot.phase, cause⟩

/-- Run the action of a test unless the before-each hook failed. -/
def runAction (boundary : Boundary) (test : Test (Action State)) :
    Option Failure → Execution State Status
  | some failure => return .failed failure
  | none => do
    match ← perform boundary test.action with
    | .ok () => return .passed
    | .error cause => return .failed ⟨.test, cause⟩

/-- Log what is worth logging about an outcome. -/
def logOutcome (test : String) : Outcome → Execution State Unit
  | ⟨.passed, none⟩ => pure ()
  | ⟨.passed, some teardown⟩ => log (.teardownFailed test teardown)
  | ⟨.failed failure, _⟩ => log (.testFailed test failure)

/-- Run a test with its hooks. The after-each hook runs when the status is already settled. -/
def runTest (boundary : Boundary) (hooks : Hooks (Action State)) (test : Test (Action State)) :
    Execution State Outcome := do
  let before ← runHook boundary hooks .beforeEach
  let status ← runAction boundary test before
  let teardown ← runHook boundary hooks .afterEach
  logOutcome test.name ⟨status, teardown⟩
  return ⟨status, teardown⟩

/-- Run a test, count it, and announce its outcome. -/
def countedTest (boundary : Boundary) (hooks : Hooks (Action State)) (depth : Nat)
    (test : Test (Action State)) : Execution State (String × Outcome) := do
  countTest
  let outcome ← runTest boundary hooks test
  if outcome.isPassed then countPassed
  announce (.testOutcome test.name depth outcome)
  return (test.name, outcome)

/-- Run the tests of a group in order. -/
def runTests (boundary : Boundary) (hooks : Hooks (Action State)) (depth : Nat) :
    List (Test (Action State)) → Execution State (List (String × Outcome))
  | [] => return []
  | test :: rest => do
    let outcome ← countedTest boundary hooks depth test
    return outcome :: (← runTests boundary hooks depth rest)

/-! ### Groups -/

/-- Announce a group that has a name. The root is passed over in silence. -/
def announceGroup (name : Option String) (tests depth : Nat) : Execution State Unit :=
  match name with
  | none => pure ()
  | some name => do
    log (.groupEntered tests)
    announce (.groupStart name depth)

mutual

/-- Execute a group at a depth: its own tests, then its children one level deeper. -/
def executeGroup (boundary : Boundary) (depth : Nat) :
    Group (Action State) → Execution State ReportNode
  | ⟨name, tests, children, hooks⟩ => within (name.getD "") depth do
    announceGroup name tests.length depth
    let outcomes ← runTests boundary hooks (depth + 1) tests
    let reports ← executeGroups boundary (depth + 1) children
    return ⟨name, outcomes, reports,
      (outcomes.all fun entry => entry.2.isPassed) && reports.all ReportNode.passed⟩

/-- Execute groups one after another. -/
def executeGroups (boundary : Boundary) (depth : Nat) :
    List (Group (Action State)) → Execution State (List ReportNode)
  | [] => return []
  | group :: rest => do
    let report ← executeGroup boundary depth group
    return report :: (← executeGroups boundary depth rest)

end

end Execution

end TestTree
