/-
This file says how the ways to build futures show in a single poll.

A completion is what a future comes to when nobody else touches the state. Where others work
between the polls of a future, only its single polls can be told, so for each way to build a
future there is a law for the poll of the result.
-/

import TestTree.Future.Immediate
import TestTree.Future.Polling

namespace TestTree

namespace Future

variable {State Value Other Part : Type}

/-! ### How a poll ends -/

/-- The end of a poll that comes to a result. -/
def Progress.of : Except Payload Value → Progress State Value
  | .ok value => .ready value
  | .error payload => .unwound payload

/-- A poll that sends signals before everything else. -/
def Polled.after (signals : List Signal) (polled : Polled State Value) : Polled State Value :=
  { polled with signals := signals ++ polled.signals }

theorem poll_sendAll (signals : List Signal) (rest : Future State Value) (state : State) :
    (sendAll signals rest).poll state = (rest.poll state).after signals := by
  induction signals with
  | nil => rfl
  | cons signal signals inductionHypothesis =>
    show (Future.send signal (sendAll signals rest)).poll state = _
    rw [poll, inductionHypothesis]
    rfl

/-! ### Sequencing -/

/-- A sequence is polled like its first part, and goes on with the second part in the same poll if
the first finishes. -/
theorem poll_bind (future : Future State Value) (next : Value → Future State Other)
    (state : State) :
    (future.bind next).poll state =
      match (future.poll state).progress with
      | .ready value =>
        ((next value).poll (future.poll state).state).after (future.poll state).signals
      | .unwound payload =>
        ⟨(future.poll state).signals, (future.poll state).state, .unwound payload⟩
      | .pending rest =>
        ⟨(future.poll state).signals, (future.poll state).state, .pending (rest.bind next)⟩ := by
  induction future generalizing state with
  | ready value => rfl
  | unwind => rfl
  | pending rest => rfl
  | send signal rest inductionHypothesis =>
    rw [bind, poll, inductionHypothesis]
    simp only [poll]
    cases (rest.poll state).progress <;> rfl
  | read step inductionHypothesis => exact inductionHypothesis state state
  | write replacement rest inductionHypothesis => exact inductionHypothesis replacement

/-! ### Catching -/

theorem poll_attempt (future : Future State Value) (state : State) :
    future.attempt.poll state =
      ⟨(future.poll state).signals, (future.poll state).state,
        match (future.poll state).progress with
        | .ready value => .ready (.ok value)
        | .unwound payload => .ready (.error payload)
        | .pending rest => .pending rest.attempt⟩ := by
  induction future generalizing state with
  | ready => rfl
  | unwind => rfl
  | pending => rfl
  | send signal rest inductionHypothesis => rw [attempt, poll, inductionHypothesis]; rfl
  | read step inductionHypothesis => exact inductionHypothesis state state
  | write replacement rest inductionHypothesis => exact inductionHypothesis replacement

/-! ### Spans -/

theorem poll_withinSpan (name : String) (future : Future State Value) (state : State) :
    (future.withinSpan name).poll state =
      ⟨(future.poll state).signals ++ [.spanLeft], (future.poll state).state,
        match (future.poll state).progress with
        | .ready value => .ready value
        | .unwound payload => .unwound payload
        | .pending rest => .pending (rest.instrument name)⟩ := by
  induction future generalizing state with
  | ready => rfl
  | unwind => rfl
  | pending => rfl
  | send signal rest inductionHypothesis => rw [withinSpan, poll, inductionHypothesis]; rfl
  | read step inductionHypothesis => exact inductionHypothesis state state
  | write replacement rest inductionHypothesis => exact inductionHypothesis replacement

/-! ### Parts of the state -/

theorem poll_onFirst (future : Future State Value) (state : State) (part : Part) :
    future.onFirst.poll (state, part) =
      ⟨(future.poll state).signals, ((future.poll state).state, part),
        match (future.poll state).progress with
        | .ready value => .ready value
        | .unwound payload => .unwound payload
        | .pending rest => .pending rest.onFirst⟩ := by
  induction future generalizing state with
  | ready => rfl
  | unwind => rfl
  | pending => rfl
  | send signal rest inductionHypothesis => rw [onFirst, poll, inductionHypothesis]; rfl
  | read step inductionHypothesis => exact inductionHypothesis state state
  | write replacement rest inductionHypothesis => exact inductionHypothesis replacement

theorem poll_collect (future : Future (State × Part) Value) (state : State) (own : Part) :
    (future.collect own).poll state =
      ⟨(future.poll (state, own)).signals, (future.poll (state, own)).state.1,
        match (future.poll (state, own)).progress with
        | .ready value => .ready (.ok value, (future.poll (state, own)).state.2)
        | .unwound payload => .ready (.error payload, (future.poll (state, own)).state.2)
        | .pending rest => .pending (rest.collect (future.poll (state, own)).state.2)⟩ := by
  induction future generalizing state own with
  | ready => rfl
  | unwind => rfl
  | pending => rfl
  | send signal rest inductionHypothesis => rw [collect, poll, inductionHypothesis]; rfl
  | read step inductionHypothesis => exact inductionHypothesis (state, own) state own
  | write replacement rest inductionHypothesis =>
    exact inductionHypothesis replacement.1 replacement.2

/-! ### One go -/

/-- A future that is taken to its end within one poll does all of its work in that poll. -/
theorem poll_uninterrupted (future : Future State Value) (state : State) :
    future.uninterrupted.poll state =
      ⟨(future.complete state).signals, (future.complete state).state,
        .of (future.complete state).result⟩ := by
  induction future generalizing state with
  | ready => rfl
  | unwind => rfl
  | pending rest inductionHypothesis => exact inductionHypothesis state
  | send signal rest inductionHypothesis => rw [uninterrupted, poll, inductionHypothesis]; rfl
  | read step inductionHypothesis => exact inductionHypothesis state state
  | write replacement rest inductionHypothesis => exact inductionHypothesis replacement

/-- A computation that yields a future goes on with that future in the same poll. -/
theorem poll_follow (computation : Immediate State (Future State Value)) (state : State) :
    computation.follow.poll state =
      match (computation.run state).result with
      | .error payload =>
        ⟨(computation.run state).signals, (computation.run state).state, .unwound payload⟩
      | .ok future =>
        (future.poll (computation.run state).state).after (computation.run state).signals := by
  show (sendAll _ (Future.write _ _)).poll state = _
  rw [poll_sendAll]
  cases (computation.run state).result with
  | error payload =>
    simp only [poll, Polled.after, List.append_nil]
  | ok future => rfl

end Future

end TestTree
