/-
This file defines the events of a run.

A run is told as a sequence of events: one before the first test, one at the start of each named
group, one after each test, and one at the end. Nesting is carried by the depths alone.
-/

import TestTree.Outcome

namespace TestTree

/-- The counts of a whole run, with its duration in milliseconds. -/
structure Summary where
  total : Nat
  passed : Nat
  failed : Nat
  milliseconds : Nat
deriving DecidableEq

/-- What a formatter is told of. -/
inductive Event where
  /-- The run starts; this many tests are registered. -/
  | runStart (tests : Nat)
  /-- A named group starts, before its tests and its children. -/
  | groupStart (name : String) (depth : Nat)
  /-- A test and its hooks are done. The depth is the one the test is shown at, one more than
  that of its group. -/
  | testOutcome (name : String) (depth : Nat) (outcome : Outcome)
  /-- The whole tree ran. -/
  | runOutcomes (summary : Summary)
deriving DecidableEq

/-- The kinds of events. -/
inductive EventKind where
  | runStart
  | groupStart
  | testOutcome
  | runOutcomes
deriving DecidableEq

/-- The kind of an event. -/
def Event.kind : Event → EventKind
  | .runStart _ => .runStart
  | .groupStart .. => .groupStart
  | .testOutcome .. => .testOutcome
  | .runOutcomes _ => .runOutcomes

end TestTree
