/-
This file says what is known about a test after it ran.

A test is a before-each hook, an action and an after-each hook, each of which can fail by
returning an error or by panicking. The failure of the first two decides the status. The failure
of the after-each hook is kept beside the status and never changes it.
-/

namespace TestTree

/-! ### Failures -/

/-- The two kinds of hooks that a group can have around each of its tests. -/
inductive HookSlot where
  | beforeEach
  | afterEach
deriving DecidableEq

namespace HookSlot

/-- The words for a hook in messages. -/
def label : HookSlot → String
  | .beforeEach => "before each"
  | .afterEach => "after each"

/-- The other slot. -/
def other : HookSlot → HookSlot
  | .beforeEach => .afterEach
  | .afterEach => .beforeEach

/-- The position of a slot around a test. -/
def position : HookSlot → Nat
  | .beforeEach => 0
  | .afterEach => 1

/-- The before-each slot comes first. -/
def precedes (first second : HookSlot) : Bool := first.position < second.position

end HookSlot

/-- The part of a test that failed. -/
inductive Phase where
  | beforeEach
  | test
  | afterEach
deriving DecidableEq

/-- The failure of a hook belongs to the phase of its slot. -/
def HookSlot.phase : HookSlot → Phase
  | .beforeEach => .beforeEach
  | .afterEach => .afterEach

/-- An action fails by returning an error or by panicking, with a message either way. -/
inductive Cause where
  | error (message : String)
  | panicked (message : String)
deriving DecidableEq

/-- The message of a cause, whichever it is. -/
def Cause.message : Cause → String
  | .error text => text
  | .panicked text => text

/-- A failure says which part of a test failed and why. -/
structure Failure where
  phase : Phase
  cause : Cause
deriving DecidableEq

namespace Failure

/-- The message of a failure is the message of its cause. -/
def message (failure : Failure) : String := failure.cause.message

/-- The text shown for a failure names the hook that failed. The failure of the test itself is
shown by its message alone. -/
def display (failure : Failure) : String :=
  match failure.phase with
  | .test => failure.message
  | .beforeEach => "before each hook: " ++ failure.message
  | .afterEach => "after each hook: " ++ failure.message

end Failure

/-! ### Outcomes -/

/-- A test passed, or it failed in its before-each hook or in its action. -/
inductive Status where
  | passed
  | failed (failure : Failure)
deriving DecidableEq

namespace Status

/-- Whether the test passed. -/
def isPassed : Status → Bool
  | .passed => true
  | .failed _ => false

/-- Whether the test failed. -/
def isFailed : Status → Bool
  | .passed => false
  | .failed _ => true

/-- The failure of a test that failed. -/
def failure? : Status → Option Failure
  | .passed => none
  | .failed failure => some failure

/-- No failure means that the test passed. -/
def ofFailure? : Option Failure → Status
  | none => .passed
  | some failure => .failed failure

theorem failure?_ofFailure? (failure : Option Failure) :
    (ofFailure? failure).failure? = failure := by
  cases failure <;> rfl

theorem isFailed_eq_not_isPassed (status : Status) : status.isFailed = !status.isPassed := by
  cases status <;> rfl

end Status

/-- The outcome of a test: its status, and the failure of its after-each hook. -/
structure Outcome where
  status : Status
  teardown : Option Failure
deriving DecidableEq

namespace Outcome

/-- A test with a failing after-each hook still passed if its status says so. -/
def isPassed (outcome : Outcome) : Bool := outcome.status.isPassed

/-- Whether the status is a failure. -/
def isFailed (outcome : Outcome) : Bool := outcome.status.isFailed

end Outcome

end TestTree
