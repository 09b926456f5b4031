/-
This file lists what a computation does to the process that it runs in.

Running a suite has effects that the run itself never looks at: it writes log records, it enters
and leaves the spans of the groups it executes, it holds a guard on the panic hook, and its
panics are announced to that hook. A computation therefore only sends signals. What the signals
lead to is decided by the process that receives them.
-/

import TestTree.Panic.Payload
import TestTree.Panic.Routing
import TestTree.Outcome

namespace TestTree

/-! ### Log records -/

/-- The severity of a log record. -/
inductive Level where
  | trace
  | debug
  | warn
deriving DecidableEq

/-- The value of a field of a log record. -/
inductive FieldValue where
  | text (value : String)
  | number (value : Nat)
deriving DecidableEq

/-- Everything that is written to the log, by the occasion on which it is written. -/
inductive LogRecord where
  /-- A describe body is about to run; the depth is the number of groups that are open. -/
  | describing (group : String) (depth : Nat)
  /-- A test is about to be added to the current group. -/
  | registering (test : String)
  /-- A second hook for one slot took the place of the first; the root group has no name. -/
  | hookReplaced (group : Option String) (slot : HookSlot)
  /-- The execution of a named group begins. -/
  | groupEntered (tests : Nat)
  /-- A panic was absorbed on a thread that holds a guard. -/
  | panicAbsorbed
  /-- A test ended with a failure. -/
  | testFailed (test : String) (failure : Failure)
  /-- A test passed and its after-each hook failed. -/
  | teardownFailed (test : String) (teardown : Failure)
  /-- A run ended with these counts. -/
  | runFinished (total passed failed : Nat)
deriving DecidableEq

namespace LogRecord

/-- Registration is traced, a failing teardown is worth a warning, the rest is for debugging. -/
def level : LogRecord → Level
  | .describing .. => .trace
  | .registering _ => .trace
  | .teardownFailed .. => .warn
  | _ => .debug

/-- The fixed text of a record. -/
def message : LogRecord → String
  | .describing .. => "entering group"
  | .registering _ => "registering test"
  | .hookReplaced .. => "hook replaced by a later registration"
  | .groupEntered _ => "entering group"
  | .panicAbsorbed => "test panicked"
  | .testFailed .. => "test failed"
  | .teardownFailed .. => "after each hook failed for a passing test"
  | .runFinished .. => "run finished"

/-- The fields of a record, by name, apart from durations and from places in the source. -/
def fields : LogRecord → List (String × FieldValue)
  | .describing group depth => [("group", .text group), ("depth", .number depth)]
  | .registering test => [("test", .text test)]
  | .hookReplaced group slot => [("group", .text (group.getD "")), ("hook", .text slot.label)]
  | .groupEntered tests => [("tests", .number tests)]
  | .panicAbsorbed => []
  | .testFailed test failure => [("test", .text test), ("failure", .text failure.display)]
  | .teardownFailed test teardown =>
    [("test", .text test), ("teardown", .text teardown.display)]
  | .runFinished total passed failed =>
    [("total", .number total), ("passed", .number passed), ("failed", .number failed)]

end LogRecord

/-! ### Signals -/

/-- What a computation does to its process without seeing the result. -/
inductive Signal where
  /-- A record is written to the log. -/
  | logged (record : LogRecord)
  /-- The span of a group is created. -/
  | spanCreated (name : String) (depth : Nat)
  /-- A span is entered: what follows happens inside the group of this name. -/
  | spanEntered (name : String)
  /-- The span that was entered last is left. -/
  | spanLeft
  /-- The panic hook is called for a panic on a thread. -/
  | panicked (thread : Thread) (payload : Payload)
  /-- A guard is installed on a thread. -/
  | guardInstalled (thread : Thread)
  /-- A guard of a thread is dropped, normally or while the thread unwinds. -/
  | guardReleased (thread : Thread) (unwinding : Bool)
deriving DecidableEq

/-- The signals of a panic: a raised one calls the hook, a resumed one does not. -/
def Panic.signals (panic : Panic) (thread : Thread) : List Signal :=
  if panic.heard then [.panicked thread panic.payload] else []

end TestTree
