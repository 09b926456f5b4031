/-
This file defines the computations that a suite is made of.

A future is polled. At each poll it works on a state shared with everybody else, sends signals to
its process, and then finishes with a value, unwinds with a payload, or suspends and leaves the
rest of itself for the next poll. Between two polls others may change the state.

A future is an inductive tree, so it can be suspended only finitely often on any path, and every
function on futures here is a structural recursion.
-/

import TestTree.Signal

namespace TestTree

/-- A computation on a shared state that may suspend. -/
inductive Future (State Value : Type) where
  /-- The computation is finished. -/
  | ready (value : Value)
  /-- The computation unwinds; the payload is on its way to whoever catches it. -/
  | unwind (payload : Payload)
  /-- The poll ends here and the rest waits for the next one. -/
  | pending (rest : Future State Value)
  /-- A signal is sent to the process. -/
  | send (signal : Signal) (rest : Future State Value)
  /-- The state is read. -/
  | read (next : State → Future State Value)
  /-- The state is replaced. -/
  | write (state : State) (rest : Future State Value)

namespace Future

variable {State Value Other Part : Type}

/-! ### Sequencing -/

/-- Continue a future with what depends on its value. An unwinding future is not continued. -/
def bind (next : Value → Future State Other) : Future State Value → Future State Other
  | .ready value => next value
  | .unwind payload => .unwind payload
  | .pending rest => .pending (rest.bind next)
  | .send signal rest => .send signal (rest.bind next)
  | .read step => .read fun state => (step state).bind next
  | .write state rest => .write state (rest.bind next)

instance : Monad (Future State) where
  pure := .ready
  bind future next := future.bind next

theorem bind_assoc {Last : Type} (future : Future State Value)
    (first : Value → Future State Other) (second : Other → Future State Last) :
    (future.bind first).bind second = future.bind fun value => (first value).bind second := by
  induction future with
  | ready => rfl
  | unwind => rfl
  | pending rest inductionHypothesis => simp [bind, inductionHypothesis]
  | send signal rest inductionHypothesis => simp [bind, inductionHypothesis]
  | read step inductionHypothesis => simp [bind, inductionHypothesis]
  | write state rest inductionHypothesis => simp [bind, inductionHypothesis]

theorem bind_ready (future : Future State Value) : future.bind .ready = future := by
  induction future with
  | ready => rfl
  | unwind => rfl
  | pending rest inductionHypothesis => simp [bind, inductionHypothesis]
  | send signal rest inductionHypothesis => simp [bind, inductionHypothesis]
  | read step inductionHypothesis => simp [bind, inductionHypothesis]
  | write state rest inductionHypothesis => simp [bind, inductionHypothesis]

instance : LawfulMonad (Future State) :=
  LawfulMonad.mk' (Future State) bind_ready (fun _ _ => rfl)
    (fun future first second => bind_assoc future first second)

/-! ### Elementary futures -/

/-- Send signals one after another. -/
def sendAll (signals : List Signal) (rest : Future State Value) : Future State Value :=
  signals.foldr .send rest

/-- Suspend a number of times and do nothing else. -/
def suspend : Nat → Future State Unit
  | 0 => .ready ()
  | times + 1 => .pending (suspend times)

/-- Change the state. -/
def modify (change : State → State) : Future State Unit :=
  .read fun state => .write (change state) (.ready ())

/-- Finish with a value or unwind with a payload. -/
def ofExcept : Except Payload Value → Future State Value
  | .ok value => .ready value
  | .error payload => .unwind payload

/-- Take a future to its end within one poll, so that nobody else works in between. -/
def uninterrupted : Future State Value → Future State Value
  | .ready value => .ready value
  | .unwind payload => .unwind payload
  | .pending rest => rest.uninterrupted
  | .send signal rest => .send signal rest.uninterrupted
  | .read step => .read fun state => (step state).uninterrupted
  | .write state rest => .write state rest.uninterrupted

/-! ### Catching -/

/-- Catch the panic of a future, whichever poll it happens in. The result never unwinds, and it
suspends exactly where the future does. -/
def attempt : Future State Value → Future State (Except Payload Value)
  | .ready value => .ready (.ok value)
  | .unwind payload => .ready (.error payload)
  | .pending rest => .pending rest.attempt
  | .send signal rest => .send signal rest.attempt
  | .read step => .read fun state => (step state).attempt
  | .write state rest => .write state rest.attempt

/-! ### Spans -/

/-- The rest of a future inside a span that is entered at this moment. The span is left when the
poll ends, also when it ends by unwinding, and entered again when the next poll begins. -/
def withinSpan (name : String) : Future State Value → Future State Value
  | .ready value => .send .spanLeft (.ready value)
  | .unwind payload => .send .spanLeft (.unwind payload)
  | .pending rest =>
    .send .spanLeft (.pending (.send (.spanEntered name) (rest.withinSpan name)))
  | .send signal rest => .send signal (rest.withinSpan name)
  | .read step => .read fun state => (step state).withinSpan name
  | .write state rest => .write state (rest.withinSpan name)

/-- A future inside a span: the span is entered for exactly the duration of each poll. -/
def instrument (name : String) (future : Future State Value) : Future State Value :=
  .send (.spanEntered name) (future.withinSpan name)

/-! ### Parts of the state -/

/-- A future on a part of the state leaves the other part as it finds it. -/
def onFirst : Future State Value → Future (State × Part) Value
  | .ready value => .ready value
  | .unwind payload => .unwind payload
  | .pending rest => .pending rest.onFirst
  | .send signal rest => .send signal rest.onFirst
  | .read step => .read fun state => (step state.1).onFirst
  | .write state rest => .read fun both => .write (state, both.2) rest.onFirst

/-- Give a future a part of the state that nobody else sees, beginning with the given value. The
result has the last value of that part, also when the future unwound, so it never unwinds. -/
def collect (own : Part) :
    Future (State × Part) Value → Future State (Except Payload Value × Part)
  | .ready value => .ready (.ok value, own)
  | .unwind payload => .ready (.error payload, own)
  | .pending rest => .pending (rest.collect own)
  | .send signal rest => .send signal (rest.collect own)
  | .read step => .read fun state => (step (state, own)).collect own
  | .write state rest => .write state.1 (rest.collect state.2)

/-- Give a future a part of the state that nobody else sees and that is forgotten at the end. -/
def confine (own : Part) (future : Future (State × Part) Value) : Future State Value :=
  (future.collect own).bind fun ended => .ofExcept ended.1

/-! ### Counting polls -/

/-- Count the polls of a future, of which there have been some already. -/
def countingFrom (polls : Nat) : Future State Value → Future State (Value × Nat)
  | .ready value => .ready (value, polls)
  | .unwind payload => .unwind payload
  | .pending rest => .pending (rest.countingFrom (polls + 1))
  | .send signal rest => .send signal (rest.countingFrom polls)
  | .read step => .read fun state => (step state).countingFrom polls
  | .write state rest => .write state (rest.countingFrom polls)

/-- A future that tells, beside its value, how often it was polled. -/
def counting (future : Future State Value) : Future State (Value × Nat) := future.countingFrom 1

end Future

end TestTree
