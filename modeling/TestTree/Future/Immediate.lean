/-
This file defines computations that run at once.

An immediate computation never suspends. It changes the state, sends signals, and either returns
a value or panics. It is what happens between being called and returning, as opposed to what a
future does when it is polled later.
-/

import TestTree.Future.Basic

namespace TestTree

/-- What an immediate computation leaves: the signals it sent, the new state, and its value or
the payload it panicked with. -/
structure Immediate.Left (State Value : Type) where
  signals : List Signal
  state : State
  result : Except Payload Value

/-- A computation that runs at once on a state. -/
def Immediate (State Value : Type) : Type := State → Immediate.Left State Value

namespace Immediate

variable {State Value Other Part : Type}

/-! ### Sequencing -/

/-- Run a computation on a state. -/
def run (computation : Immediate State Value) (state : State) : Left State Value :=
  computation state

/-- Continue a computation with what depends on its value. A panic ends it. -/
def bind (computation : Immediate State Value) (next : Value → Immediate State Other) :
    Immediate State Other := fun state =>
  let left := computation.run state
  match left.result with
  | .error payload => ⟨left.signals, left.state, .error payload⟩
  | .ok value =>
    let after := (next value).run left.state
    ⟨left.signals ++ after.signals, after.state, after.result⟩

instance : Monad (Immediate State) where
  pure value := fun state => ⟨[], state, .ok value⟩
  bind computation next := computation.bind next

/-- Turning the value of a computation into another one changes nothing else. -/
theorem run_bind_pure (computation : Immediate State Value) (change : Value → Other)
    (state : State) :
    (computation.bind fun value => pure (change value)).run state =
      let left := computation.run state
      ⟨left.signals, left.state, left.result.map change⟩ := by
  simp only [run, bind]
  cases (computation state).result with
  | error payload => rfl
  | ok value => simp only [pure, List.append_nil, Except.map]

/-! ### Elementary computations -/

/-- The current state. -/
def get : Immediate State State := fun state => ⟨[], state, .ok state⟩

/-- Change the state. -/
def modify (change : State → State) : Immediate State Unit := fun state =>
  ⟨[], change state, .ok ()⟩

/-- Panic on the main thread. -/
def panic (cause : Panic) : Immediate State Value := fun state =>
  ⟨cause.signals .main, state, .error cause.payload⟩

/-- A computation on a part of the state leaves the other part as it finds it. -/
def onFirst (computation : Immediate State Value) : Immediate (State × Part) Value := fun both =>
  let left := computation.run both.1
  ⟨left.signals, (left.state, both.2), left.result⟩

/-! ### As futures -/

/-- Run a computation that yields a future, and then the future, in one go. -/
def follow (computation : Immediate State (Future State Value)) : Future State Value :=
  .read fun state =>
    let left := computation.run state
    Future.sendAll left.signals (.write left.state
      (match left.result with
      | .ok future => future
      | .error payload => .unwind payload))

/-- An immediate computation as a future that finishes at its first poll. -/
def toFuture (computation : Immediate State Value) : Future State Value :=
  follow (computation.bind fun value => pure (.ready value))

end Immediate

end TestTree
