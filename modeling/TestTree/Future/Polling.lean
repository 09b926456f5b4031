/-
This file says how futures are driven.

One poll takes a future from its state to the end of the poll. Driving a future to completion
polls it again and again while nobody else touches the state, and collects the signals it sent
and the number of polls it took.
-/

import TestTree.Future.Basic

namespace TestTree

namespace Future

variable {State Value : Type}

/-! ### One poll -/

/-- How a poll ends. -/
inductive Progress (State Value : Type) where
  | ready (value : Value)
  | unwound (payload : Payload)
  | pending (rest : Future State Value)

/-- A poll: the signals sent during it, the state it leaves, and how it ended. -/
structure Polled (State Value : Type) where
  signals : List Signal
  state : State
  progress : Progress State Value

/-- Poll a future once. -/
def poll (state : State) : Future State Value → Polled State Value
  | .ready value => ⟨[], state, .ready value⟩
  | .unwind payload => ⟨[], state, .unwound payload⟩
  | .pending rest => ⟨[], state, .pending rest⟩
  | .send signal rest =>
    let polled := rest.poll state
    { polled with signals := signal :: polled.signals }
  | .read step => (step state).poll state
  | .write next rest => rest.poll next

/-! ### Completion -/

/-- A future driven to its end: the signals it sent, the state it left, the value it finished
with or the payload it unwound with, and how often it was suspended. -/
structure Completed (State Value : Type) where
  signals : List Signal
  state : State
  result : Except Payload Value
  suspensions : Nat

/-- A future is polled once more than it suspends. -/
def Completed.polls (completed : Completed State Value) : Nat := completed.suspensions + 1

/-- Poll a future until it is finished, with nothing in between. -/
def complete (state : State) : Future State Value → Completed State Value
  | .ready value => ⟨[], state, .ok value, 0⟩
  | .unwind payload => ⟨[], state, .error payload, 0⟩
  | .pending rest =>
    let completed := rest.complete state
    { completed with suspensions := completed.suspensions + 1 }
  | .send signal rest =>
    let completed := rest.complete state
    { completed with signals := signal :: completed.signals }
  | .read step => (step state).complete state
  | .write next rest => rest.complete next

/-- What is completed after a poll, when the poll is counted in. -/
def Polled.complete (polled : Polled State Value) : Completed State Value :=
  match polled.progress with
  | .ready value => ⟨polled.signals, polled.state, .ok value, 0⟩
  | .unwound payload => ⟨polled.signals, polled.state, .error payload, 0⟩
  | .pending rest =>
    let completed := rest.complete polled.state
    ⟨polled.signals ++ completed.signals, completed.state, completed.result,
      completed.suspensions + 1⟩

/-- Completing a future is polling it once and completing what that poll left. -/
theorem complete_eq_poll (future : Future State Value) (state : State) :
    future.complete state = (future.poll state).complete := by
  induction future generalizing state with
  | ready => rfl
  | unwind => rfl
  | pending rest => rfl
  | send signal rest inductionHypothesis =>
    simp only [complete, poll, inductionHypothesis state, Polled.complete]
    cases (rest.poll state).progress <;> rfl
  | read step inductionHypothesis => exact inductionHypothesis state state
  | write next rest inductionHypothesis => exact inductionHypothesis next

end Future

end TestTree
