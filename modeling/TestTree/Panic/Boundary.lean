/-
This file defines the boundary around each action.

A boundary encloses the call of an action and turns everything the action reports into success or
a cause of failure. A returned error is a cause at every boundary. An isolating boundary also
catches panics, both those of the call and those of the polls, and reports a panicking call at the
first poll. A transparent boundary lets panics through, so they end the run.

Whoever catches a panic has its payload to dispose of. A text is the message of the failure, any
other value is dropped there and then, and its destructor is behind the boundary: when it panics,
nobody catches that. The payloads of a run have no destructors.
-/

import TestTree.Action

namespace TestTree

/-- The two kinds of boundaries. An isolating boundary may silence the panic hook for the run. -/
inductive Boundary where
  | isolating (silent : Bool)
  | transparent
deriving DecidableEq

namespace Boundary

variable {State : Type}

/-- A boundary isolates and silences unless something else is asked for. -/
def standard : Boundary := .isolating true

/-- Whether a run under this boundary holds a guard on the panic hook. -/
def silences : Boundary → Bool
  | .isolating silent => silent
  | .transparent => false

/-- A verdict seen as a result of the boundary. -/
def ofVerdict (verdict : Verdict) : Except Cause Unit := verdict.mapError .error

/-- A caught future seen as a result of the boundary: a panic is a cause like an error. -/
def ofAttempt : Except Payload Verdict → Except Cause Unit
  | .ok verdict => ofVerdict verdict
  | .error payload => .error (.panicked payload.message)

/-- Dispose of a caught payload. A text is moved out of it. A value that is no text is dropped, and
its destructor, if it has one, runs at once and may do whatever a call may do. -/
def dispose (destructor : Option (Immediate State Unit)) : Payload → Future State Unit
  | .text _ => .ready ()
  | .other =>
    match destructor with
    | none => .ready ()
    | some body => body.toFuture

/-- What an isolating boundary makes of the end of a future. The message of a panic is read before
the payload is disposed of. -/
def settle (destructor : Option (Immediate State Unit)) :
    Except Payload Verdict → Future State (Except Cause Unit)
  | .ok verdict => .ready (ofVerdict verdict)
  | .error payload => (dispose destructor payload).bind fun () =>
      .ready (.error (.panicked payload.message))

/-- Without destructors the end is told and nothing else happens. -/
theorem settle_none :
    (settle none : Except Payload Verdict → Future State (Except Cause Unit)) =
      fun caught => .ready (ofAttempt caught) := by
  funext caught
  match caught with
  | .ok _ => rfl
  | .error (.text _) => rfl
  | .error .other => rfl

/-- Call an action through the boundary. The call itself happens at once, its future is polled
later. A value that is no text and that the action panics with has the given destructor. -/
def encloseDropping (boundary : Boundary) (destructor : Option (Immediate State Unit))
    (call : Immediate State (Future State Verdict)) :
    Immediate State (Future State (Except Cause Unit)) :=
  match boundary with
  | .transparent => call.bind fun future => pure (future.bind fun verdict =>
      .ready (ofVerdict verdict))
  | .isolating _ => fun state =>
    let left := call.run state
    ⟨left.signals, left.state, .ok
      (match left.result with
      | .ok future => future.attempt.bind (settle destructor)
      | .error payload => settle destructor (.error payload))⟩

/-- Call an action whose payloads have no destructors through the boundary. -/
def enclose (boundary : Boundary) (call : Immediate State (Future State Verdict)) :
    Immediate State (Future State (Except Cause Unit)) :=
  boundary.encloseDropping none call

end Boundary

end TestTree
