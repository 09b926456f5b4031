/-
This file says what one call of an action comes to.

A call runs at once up to its return and then its future is driven to the end. What that comes to
on a state is the state it leaves and either the verdict of the action or the payload of its panic,
whether it panicked in the call or at a poll. A boundary adds nothing to this but the way in which
the end is told: an isolating one turns a payload into a cause of failure, a transparent one lets
it through.

What an action comes to does not change if the action takes notes of it on the way.
-/

import TestTree.Future.Completion
import TestTree.Panic.Boundary

namespace TestTree

variable {State : Type}

/-! ### Actions -/

/-- What an action comes to when it is called and driven to its end. -/
def Action.settle (action : Action State) (state : State) : State × Except Payload Verdict :=
  let left := action.call.run state
  match left.result with
  | .error payload => (left.state, .error payload)
  | .ok future => ((future.complete left.state).state, (future.complete left.state).result)

/-- What an action comes to, with a panic as a cause of failure. -/
def Action.answer (action : Action State) (state : State) : State × Except Cause Unit :=
  ((action.settle state).1, Boundary.ofAttempt (action.settle state).2)

/-! ### Boundaries -/

/-- How a boundary tells the end of an action: the result that the execution sees, or the payload
with which the execution ends. -/
def Boundary.pass (boundary : Boundary) (ended : Except Payload Verdict) :
    Except Payload (Except Cause Unit) :=
  match boundary with
  | .isolating _ => .ok (Boundary.ofAttempt ended)
  | .transparent => ended.map Boundary.ofVerdict

namespace Future

theorem attempt_sendAll {Value : Type} (signals : List Signal) (rest : Future State Value) :
    (sendAll signals rest).attempt = sendAll signals rest.attempt := by
  induction signals with
  | nil => rfl
  | cons signal signals inductionHypothesis => exact congrArg (send signal) inductionHypothesis

theorem bind_sendAll {Value Other : Type} (signals : List Signal) (rest : Future State Value)
    (next : Value → Future State Other) :
    (sendAll signals rest).bind next = sendAll signals (rest.bind next) := by
  induction signals with
  | nil => rfl
  | cons signal signals inductionHypothesis => exact congrArg (send signal) inductionHypothesis

end Future

/-- What a boundary makes of the future that an action is when its call belongs to it. -/
def Boundary.around (boundary : Boundary) (future : Future State Verdict) :
    Future State (Except Cause Unit) :=
  match boundary with
  | .isolating _ => future.attempt.bind fun caught => .ready (ofAttempt caught)
  | .transparent => future.bind fun verdict => .ready (ofVerdict verdict)

/-- Calling an action through a boundary and going on with what it yields is the same as putting the
boundary around both. -/
theorem Boundary.follow_enclose (boundary : Boundary)
    (call : Immediate State (Future State Verdict)) :
    (boundary.enclose call).follow = boundary.around call.follow := by
  cases boundary with
  | isolating silent =>
    refine congrArg Future.read (funext fun state => ?_)
    show _ = Future.bind _ (Future.attempt (Future.sendAll _ _))
    rw [Future.attempt_sendAll, Future.bind_sendAll]
    simp only [enclose, encloseDropping, settle_none, Immediate.run]
    cases (call state).result <;> rfl
  | transparent =>
    refine congrArg Future.read (funext fun state => ?_)
    show _ = Future.bind _ (Future.sendAll _ _)
    rw [Future.bind_sendAll, enclose, encloseDropping, Immediate.run_bind_pure]
    simp only [Immediate.run]
    cases (call state).result <;> rfl

namespace Future

theorem complete_sendAll {Value : Type} (signals : List Signal) (rest : Future State Value)
    (state : State) :
    (sendAll signals rest).complete state =
      { rest.complete state with signals := signals ++ (rest.complete state).signals } := by
  induction signals with
  | nil => rfl
  | cons signal signals inductionHypothesis =>
    show (Future.send signal (sendAll signals rest)).complete state = _
    rw [complete, inductionHypothesis]
    rfl

/-- A computation that yields a future is followed by that future. -/
theorem complete_follow {Value : Type} (computation : Immediate State (Future State Value))
    (state : State) :
    computation.follow.complete state =
      match (computation.run state).result with
      | .error payload =>
        ⟨(computation.run state).signals, (computation.run state).state, .error payload, 0⟩
      | .ok future =>
        let completed := future.complete (computation.run state).state
        ⟨(computation.run state).signals ++ completed.signals, completed.state, completed.result,
          completed.suspensions⟩ := by
  show (sendAll _ (Future.write _ _)).complete state = _
  rw [complete_sendAll]
  cases (computation.run state).result with
  | error payload => simp only [complete, List.append_nil]
  | ok future => rfl

end Future

/-- What an action comes to is what its call comes to when it is followed. -/
theorem Action.settle_eq_complete (action : Action State) (state : State) :
    action.settle state =
      ((action.call.follow.complete state).state, (action.call.follow.complete state).result) := by
  simp only [Future.complete_follow, settle]
  cases (action.call.run state).result <;> rfl

namespace Future

/-- A boundary changes nothing but the way in which the end is told. -/
theorem complete_around (boundary : Boundary) (future : Future State Verdict) (state : State) :
    (boundary.around future).complete state =
      let own := future.complete state
      ⟨own.signals, own.state, boundary.pass own.result, own.suspensions⟩ := by
  cases boundary with
  | isolating silent =>
    simp only [Boundary.around, complete_bind, complete_attempt, Completed.andThen, complete,
      List.append_nil, Nat.add_zero, Boundary.pass]
  | transparent =>
    simp only [Boundary.around, complete_bind, Completed.andThen, complete, Boundary.pass]
    cases (future.complete state).result with
    | error payload => rfl
    | ok verdict => simp only [List.append_nil, Nat.add_zero, Except.map]

/-- A call through a boundary leaves the state that the action leaves, and the boundary passes on
how the action ended. -/
theorem complete_enclose (boundary : Boundary) (action : Action State) (state : State) :
    ((boundary.enclose action.call).follow.complete state).state = (action.settle state).1 ∧
      ((boundary.enclose action.call).follow.complete state).result =
        boundary.pass (action.settle state).2 := by
  rw [Boundary.follow_enclose, complete_around, action.settle_eq_complete]
  exact ⟨rfl, rfl⟩

end Future

/-! ### Actions that take notes -/

variable {Note : Type}

/-- Note in which state and how a future ends. -/
def Future.noting {Value : Type} (ended : State → Except Payload Value → Note)
    (future : Future State Value) : Future (State × List Note) Value :=
  future.onFirst.attempt.bind fun caught =>
    (Future.modify fun both => (both.1, both.2 ++ [ended both.1 caught])).bind fun () =>
      .ofExcept caught

/-- The same action, which takes a note when it begins, and one when it has ended, of the state
that it left and of how it ended. A call of an asynchronous action that panics has ended with
that, and a blocking action has ended when the call returns. -/
def Action.noting (begun : Note) (ended : State → Except Payload Verdict → Note) :
    Action State → Action (State × List Note)
  | .asynchronous start => .asynchronous fun both =>
    let left := start.run both.1
    match left.result with
    | .error payload =>
      ⟨left.signals, (left.state, both.2 ++ [begun, ended left.state (.error payload)]),
        .error payload⟩
    | .ok future => ⟨left.signals, (left.state, both.2 ++ [begun]), .ok (future.noting ended)⟩
  | .blocking body => .blocking fun both =>
    let left := body.run both.1
    ⟨left.signals, (left.state, both.2 ++ [begun, ended left.state left.result]), left.result⟩

theorem Future.complete_noting {Value : Type} (ended : State → Except Payload Value → Note)
    (future : Future State Value) (state : State) (notes : List Note) :
    (future.noting ended).complete (state, notes) =
      ⟨(future.complete state).signals,
        ((future.complete state).state,
          notes ++ [ended (future.complete state).state (future.complete state).result]),
        (future.complete state).result, (future.complete state).suspensions⟩ := by
  simp only [noting, complete_bind, complete_attempt, complete_onFirst, Completed.andThen]
  cases (future.complete state).result <;>
    simp only [Future.modify, Future.ofExcept, complete, List.append_nil, Nat.add_zero]

/-- An action that takes notes comes to what the action comes to, and has noted just that. -/
theorem Action.settle_noting (begun : Note) (ended : State → Except Payload Verdict → Note)
    (action : Action State) (state : State) (notes : List Note) :
    (action.noting begun ended).settle (state, notes) =
      (((action.settle state).1,
          notes ++ [begun, ended (action.settle state).1 (action.settle state).2]),
        (action.settle state).2) := by
  cases action with
  | asynchronous start =>
    simp only [noting, settle, call, Immediate.run]
    cases (start state).result with
    | error payload => rfl
    | ok future => simp only [Future.complete_noting, List.append_assoc, List.singleton_append]
  | blocking body =>
    simp only [noting, settle, call, Immediate.run, Immediate.bind]
    cases (body state).result <;> rfl

end TestTree
