/-
This file says what a future comes to when nobody else touches its state.

Driven to its end, a future finishes with a value and leaves a state, or it unwinds. The signals
it sends and the polls it takes are left aside here, so the rules for the ways to build futures
become those of a language that runs in one go: a sequence yields what its second part yields from
the state that its first part left, and a span changes nothing at all.
-/

import TestTree.Future.Completion
import TestTree.Future.Immediate

namespace TestTree

namespace Future

variable {State Value Other Part : Type}

/-- Driven to its end from a state, the future finishes with the value and leaves the second
state. -/
def Yields (future : Future State Value) (before : State) (value : Value) (after : State) : Prop :=
  (future.complete before).result = .ok value ∧ (future.complete before).state = after

/-- A completed result comes with the state that was left. -/
theorem Yields.of_result {future : Future State Value} {before : State} {value : Value}
    (result : (future.complete before).result = .ok value) :
    future.Yields before value (future.complete before).state := ⟨result, rfl⟩

/-! ### Sequencing -/

theorem yields_pure_iff (value other : Value) (before after : State) :
    (pure value : Future State Value).Yields before other after ↔
      value = other ∧ before = after := by
  show (Except.ok value = Except.ok other ∧ before = after) ↔ _
  rw [Except.ok.injEq]

theorem not_yields_unwind (payload : Payload) (value : Value) (before after : State) :
    ¬ (Future.unwind payload : Future State Value).Yields before value after := by
  rintro ⟨result, _⟩
  cases result

/-- A sequence yields what its second part yields from the state that its first part left. -/
theorem yields_bind_iff (future : Future State Value) (next : Value → Future State Other)
    (result : Other) (before after : State) :
    (future >>= next).Yields before result after ↔
      ∃ value between, future.Yields before value between ∧
        (next value).Yields between result after := by
  show ((future.bind next).complete before).result = _ ∧
    ((future.bind next).complete before).state = _ ↔ _
  rw [complete_bind]
  unfold Completed.andThen
  constructor
  · rintro ⟨resultEq, stateEq⟩
    cases first : (future.complete before).result with
    | error payload =>
      rw [first] at resultEq
      cases resultEq
    | ok value =>
      rw [first] at resultEq stateEq
      exact ⟨value, (future.complete before).state, ⟨first, rfl⟩, resultEq, stateEq⟩
  · rintro ⟨value, between, ⟨first, rfl⟩, second, rfl⟩
    rw [first]
    exact ⟨second, rfl⟩

theorem Yields.bind {future : Future State Value} {next : Value → Future State Other}
    {value : Value} {result : Other} {before between after : State}
    (first : future.Yields before value between) (second : (next value).Yields between result after) :
    (future >>= next).Yields before result after :=
  (yields_bind_iff future next result before after).mpr ⟨value, between, first, second⟩

/-! ### Signals, states and spans -/

theorem yields_send_iff (signal : Signal) (rest : Future State Value) (value : Value)
    (before after : State) :
    (Future.send signal rest).Yields before value after ↔ rest.Yields before value after := Iff.rfl

theorem yields_sendAll_iff (signals : List Signal) (rest : Future State Value) (value : Value)
    (before after : State) :
    (sendAll signals rest).Yields before value after ↔ rest.Yields before value after := by
  induction signals with
  | nil => rfl
  | cons signal signals inductionHypothesis => exact inductionHypothesis

theorem yields_modify_iff (change : State → State) (done : Unit) (before after : State) :
    (modify change).Yields before done after ↔ change before = after := by
  show (Except.ok () = Except.ok () ∧ change before = after) ↔ _
  simp only [true_and]

/-- A span does not change what a future comes to. -/
theorem yields_instrument_iff (name : String) (future : Future State Value) (value : Value)
    (before after : State) :
    (future.instrument name).Yields before value after ↔ future.Yields before value after := by
  show ((future.withinSpan name).complete before).result = _ ∧
    ((future.withinSpan name).complete before).state = _ ↔ _
  rw [complete_withinSpan]
  rfl

/-- On a larger state a future comes to the same and leaves the other part alone. -/
theorem yields_onFirst_iff (future : Future State Value) (value : Value) (before after : State)
    (part other : Part) :
    future.onFirst.Yields (before, part) value (after, other) ↔
      future.Yields before value after ∧ part = other := by
  unfold Yields
  rw [complete_onFirst]
  simp only [Prod.mk.injEq, and_assoc]

/-! ### Unwinding -/

/-- Driven to its end from a state, the future unwinds with the payload and leaves the second
state. -/
def Unwinds (future : Future State Value) (before : State) (payload : Payload) (after : State) :
    Prop :=
  (future.complete before).result = .error payload ∧ (future.complete before).state = after

/-- What follows an unwinding future never begins. -/
theorem Unwinds.bind {future : Future State Value} {before after : State} {payload : Payload}
    (unwinds : future.Unwinds before payload after) (next : Value → Future State Other) :
    (future >>= next).Unwinds before payload after := by
  obtain ⟨result, left⟩ := unwinds
  show ((future.bind next).complete before).result = _ ∧
    ((future.bind next).complete before).state = _
  rw [complete_bind, Completed.andThen, result]
  exact ⟨rfl, left⟩

/-- A sequence unwinds if its second part does so from the state that its first part left. -/
theorem Yields.bind_unwinds {future : Future State Value} {next : Value → Future State Other}
    {value : Value} {payload : Payload} {before between after : State}
    (first : future.Yields before value between)
    (second : (next value).Unwinds between payload after) :
    (future >>= next).Unwinds before payload after := by
  obtain ⟨result, rfl⟩ := first
  show ((future.bind next).complete before).result = _ ∧
    ((future.bind next).complete before).state = _
  rw [complete_bind, Completed.andThen, result]
  exact second

theorem unwinds_instrument_iff (name : String) (future : Future State Value) (payload : Payload)
    (before after : State) :
    (future.instrument name).Unwinds before payload after ↔
      future.Unwinds before payload after := by
  show ((future.withinSpan name).complete before).result = _ ∧
    ((future.withinSpan name).complete before).state = _ ↔ _
  rw [complete_withinSpan]
  rfl

end Future

end TestTree
