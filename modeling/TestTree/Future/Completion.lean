/-
This file says how the ways to build futures show in their completion.

Completion is the view of a future that runs alone: its signals, the state it leaves, its result,
and its suspensions. Sequencing futures sequences their completions, catching a panic turns it
into a value, and spans and parts of the state change nothing but what they are about.
-/

import TestTree.Future.Polling

namespace TestTree

namespace Future

variable {State Value Other Part : Type}

/-! ### Sequencing -/

/-- A completion that another one follows, if the first ended with a value. -/
def Completed.andThen (first : Completed State Value)
    (next : Value → State → Completed State Other) : Completed State Other :=
  match first.result with
  | .error payload => ⟨first.signals, first.state, .error payload, first.suspensions⟩
  | .ok value =>
    let second := next value first.state
    ⟨first.signals ++ second.signals, second.state, second.result,
      first.suspensions + second.suspensions⟩

/-- A sequence of futures is completed by completing one after the other. -/
theorem complete_bind (future : Future State Value) (next : Value → Future State Other)
    (state : State) :
    (future.bind next).complete state =
      (future.complete state).andThen fun value state => (next value).complete state := by
  induction future generalizing state with
  | ready value => simp [bind, complete, Completed.andThen]
  | unwind => rfl
  | pending rest inductionHypothesis =>
    simp only [bind, complete, inductionHypothesis, Completed.andThen]
    cases (rest.complete state).result with
    | error => rfl
    | ok value => simp only [Completed.mk.injEq, true_and]; omega
  | send signal rest inductionHypothesis =>
    simp only [bind, complete, inductionHypothesis, Completed.andThen]
    cases (rest.complete state).result <;> rfl
  | read step inductionHypothesis => exact inductionHypothesis state state
  | write replacement rest inductionHypothesis => exact inductionHypothesis replacement

/-- A future that is taken to its end within one poll never suspends, and is otherwise completed
as before. -/
theorem complete_uninterrupted (future : Future State Value) (state : State) :
    future.uninterrupted.complete state = { future.complete state with suspensions := 0 } := by
  induction future generalizing state with
  | ready => rfl
  | unwind => rfl
  | pending rest inductionHypothesis => simp only [uninterrupted, complete, inductionHypothesis]
  | send signal rest inductionHypothesis =>
    simp only [uninterrupted, complete, inductionHypothesis]
  | read step inductionHypothesis => exact inductionHypothesis state state
  | write next rest inductionHypothesis => exact inductionHypothesis next

/-! ### Catching -/

/-- A caught future never unwinds, and its completion differs only in its result. -/
theorem complete_attempt (future : Future State Value) (state : State) :
    future.attempt.complete state =
      { future.complete state with result := .ok (future.complete state).result } := by
  induction future generalizing state with
  | ready => rfl
  | unwind => rfl
  | pending rest inductionHypothesis => simp only [attempt, complete, inductionHypothesis]
  | send signal rest inductionHypothesis => simp only [attempt, complete, inductionHypothesis]
  | read step inductionHypothesis => exact inductionHypothesis state state
  | write next rest inductionHypothesis => exact inductionHypothesis next

/-! ### Spans -/

/-- A completion with other signals. -/
def Completed.withSignals (completed : Completed State Value) (signals : List Signal) :
    Completed State Value :=
  { completed with signals := signals }

/-- A span shows in the signals alone. -/
theorem complete_withinSpan (name : String) (future : Future State Value) (state : State) :
    (future.withinSpan name).complete state =
      (future.complete state).withSignals ((future.withinSpan name).complete state).signals := by
  induction future generalizing state with
  | ready => rfl
  | unwind => rfl
  | pending rest inductionHypothesis =>
    have rest := inductionHypothesis state
    simp only [withinSpan, complete, Completed.withSignals] at *
    rw [rest]
  | send signal rest inductionHypothesis =>
    have rest := inductionHypothesis state
    simp only [withinSpan, complete, Completed.withSignals] at *
    rw [rest]
  | read step inductionHypothesis => exact inductionHypothesis state state
  | write next rest inductionHypothesis => exact inductionHypothesis next

/-! ### Parts of the state -/

/-- On a larger state a future leaves the part it does not know as it is. -/
theorem complete_onFirst (future : Future State Value) (state : State) (part : Part) :
    future.onFirst.complete (state, part) =
      ⟨(future.complete state).signals, ((future.complete state).state, part),
        (future.complete state).result, (future.complete state).suspensions⟩ := by
  induction future generalizing state with
  | ready => rfl
  | unwind => rfl
  | pending rest inductionHypothesis => simp only [onFirst, complete, inductionHypothesis]
  | send signal rest inductionHypothesis => simp only [onFirst, complete, inductionHypothesis]
  | read step inductionHypothesis => exact inductionHypothesis state state
  | write next rest inductionHypothesis => exact inductionHypothesis next

/-- A part of the state that is collected at the end is the one that the whole future leaves. -/
theorem complete_collect (future : Future (State × Part) Value) (state : State) (own : Part) :
    (future.collect own).complete state =
      ⟨(future.complete (state, own)).signals, (future.complete (state, own)).state.1,
        .ok ((future.complete (state, own)).result, (future.complete (state, own)).state.2),
        (future.complete (state, own)).suspensions⟩ := by
  induction future generalizing state own with
  | ready => rfl
  | unwind => rfl
  | pending rest inductionHypothesis => simp only [collect, complete, inductionHypothesis]
  | send signal rest inductionHypothesis => simp only [collect, complete, inductionHypothesis]
  | read step inductionHypothesis => exact inductionHypothesis (state, own) state own
  | write next rest inductionHypothesis => exact inductionHypothesis next.1 next.2

end Future

end TestTree
