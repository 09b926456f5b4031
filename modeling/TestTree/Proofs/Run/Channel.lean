/-
This file lets the formatter of a run work beside the run.

A run sends its events into a channel that keeps them in order, and it waits for nobody. A thread of
the formatter's own takes them out one after another, at whatever moments it gets to do so, and it
is gone once its formatter panics; what is sent after that is not taken by anybody. When the run has
executed its tree, nothing more can be sent, the thread takes what is left, and the run waits for it.

It makes no difference how fast the thread is. All that is ever done to the channel is to append to
it, so what the thread has done and what is still to be taken always come to what the formatter does
with all that was sent.
-/

import TestTree.Proofs.Run.Call
import TestTree.Proofs.Run.Composition
import TestTree.Proofs.Run.Conclusion

namespace TestTree

open Formatter

variable {State Value Other Kept Error : Type}

/-! ### The thread of a formatter -/

/-- How far the thread of a formatter is: how many events it took, and what came of them. -/
structure Listener (Kept Error : Type) where
  taken : Nat
  delivery : Delivery Kept Error

namespace Listener

/-- Take the first event that waits, if the thread is still there and an event waits. -/
def receive (formatter : Formatter Kept Error) (sent : List Event) (listener : Listener Kept Error) :
    Listener Kept Error :=
  match listener.delivery.panic, sent[listener.taken]? with
  | none, some event => ⟨listener.taken + 1, formatter.deliver listener.delivery event⟩
  | _, _ => listener

/-- Take events one after another, this many at most. -/
def receiveUpTo (formatter : Formatter Kept Error) (sent : List Event) :
    Nat → Listener Kept Error → Listener Kept Error
  | 0, listener => listener
  | count + 1, listener => receiveUpTo formatter sent count (listener.receive formatter sent)

/-- Take everything that is left when nothing more can come. -/
def drain (formatter : Formatter Kept Error) (sent : List Event) (listener : Listener Kept Error) :
    Delivery Kept Error :=
  formatter.deliverAll listener.delivery (sent.drop listener.taken)

/-- The thread took a part of what was sent, and with the rest of it the formatter comes to what it
comes to with everything. -/
structure Abreast (formatter : Formatter Kept Error) (opening : Delivery Kept Error)
    (sent : List Event) (listener : Listener Kept Error) : Prop where
  taken_le : listener.taken ≤ sent.length
  drain_eq : listener.drain formatter sent = formatter.deliverAll opening sent

namespace Abreast

variable {formatter : Formatter Kept Error} {opening : Delivery Kept Error} {sent later : List Event}
  {listener : Listener Kept Error}

theorem start (formatter : Formatter Kept Error) (opening : Delivery Kept Error) :
    Abreast formatter opening [] ⟨0, opening⟩ := ⟨Nat.le_refl 0, rfl⟩

/-- What is sent stands behind all that waits. -/
theorem grow (abreast : Abreast formatter opening sent listener) (grown : sent <+: later) :
    Abreast formatter opening later listener := by
  obtain ⟨more, rfl⟩ := grown
  refine ⟨?_, ?_⟩
  · rw [List.length_append]
    exact Nat.le_add_right_of_le abreast.taken_le
  · have before := abreast.drain_eq
    unfold drain at before ⊢
    rw [List.drop_append_of_le_length abreast.taken_le, deliverAll_append, deliverAll_append, before]

theorem receive (abreast : Abreast formatter opening sent listener) :
    Abreast formatter opening sent (listener.receive formatter sent) := by
  unfold Listener.receive
  cases listener.delivery.panic with
  | some payload => exact abreast
  | none =>
    cases waiting : sent[listener.taken]? with
    | none => exact abreast
    | some event =>
      obtain ⟨inside, same⟩ := List.getElem?_eq_some_iff.mp waiting
      have before := abreast.drain_eq
      rw [drain, List.drop_eq_getElem_cons inside, same] at before
      exact ⟨inside, before⟩

theorem receiveUpTo (count : Nat) (abreast : Abreast formatter opening sent listener) :
    Abreast formatter opening sent (listener.receiveUpTo formatter sent count) := by
  induction count generalizing listener with
  | zero => exact abreast
  | succ count inductionHypothesis => exact inductionHypothesis abreast.receive

end Abreast

end Listener

/-! ### Executions that only append to the channel -/

namespace Execution

/-- Whenever the execution replaces the tally, what was sent before stays in front. -/
def Extends (sent : List Event) : Execution State Value → Prop
  | .ready _ => True
  | .unwind _ => True
  | .pending rest => Extends sent rest
  | .send _ rest => Extends sent rest
  | .read next => ∀ both : State × Tally, both.2.queue = sent → Extends sent (next both)
  | .write both rest => sent <+: both.2.queue ∧ Extends both.2.queue rest

/-- Whatever was sent before, the execution only appends to it. -/
def OnlySends (execution : Execution State Value) : Prop := ∀ sent, Extends sent execution

theorem Extends.bind {execution : Execution State Value} {next : Value → Execution State Other}
    {sent : List Event} (first : Extends sent execution) (second : ∀ value, OnlySends (next value)) :
    Extends sent (Future.bind next execution) := by
  induction execution generalizing sent with
  | ready value => exact second value sent
  | unwind payload => trivial
  | pending rest inductionHypothesis => exact inductionHypothesis first
  | send signal rest inductionHypothesis => exact inductionHypothesis first
  | read step inductionHypothesis => exact fun both same => inductionHypothesis both (first both same)
  | write both rest inductionHypothesis => exact ⟨first.1, inductionHypothesis first.2⟩

theorem OnlySends.bind {execution : Execution State Value} {next : Value → Execution State Other}
    (first : OnlySends execution) (second : ∀ value, OnlySends (next value)) :
    OnlySends (execution >>= next) :=
  fun sent => (first sent).bind second

theorem onlySends_recount (change : Tally → Tally)
    (grows : ∀ tally, tally.queue <+: (change tally).queue) :
    OnlySends (recount change : Execution State Unit) := by
  rintro _ both rfl
  exact ⟨grows both.2, trivial⟩

/-- A future that is waited for does not know the channel. -/
theorem onlySends_await (future : Future State Value) : OnlySends (await future) := by
  intro sent
  unfold await
  induction future with
  | ready value => trivial
  | unwind payload => trivial
  | pending rest inductionHypothesis => exact inductionHypothesis
  | send signal rest inductionHypothesis => exact inductionHypothesis
  | read step inductionHypothesis => exact fun both _ => inductionHypothesis both.1
  | write state rest inductionHypothesis =>
    rintro both rfl
    exact ⟨List.prefix_refl _, inductionHypothesis⟩

theorem Extends.withinSpan {execution : Execution State Value} {sent : List Event}
    (extending : Extends sent execution) (name : String) :
    Extends sent (execution.withinSpan name) := by
  induction execution generalizing sent with
  | ready value => trivial
  | unwind payload => trivial
  | pending rest inductionHypothesis => exact inductionHypothesis extending
  | send signal rest inductionHypothesis => exact inductionHypothesis extending
  | read step inductionHypothesis =>
    exact fun both same => inductionHypothesis both (extending both same)
  | write both rest inductionHypothesis =>
    exact ⟨extending.1, inductionHypothesis extending.2⟩

theorem OnlySends.within {execution : Execution State Value} (only : OnlySends execution)
    (name : String) (depth : Nat) : OnlySends (within name depth execution) :=
  fun sent => (only sent).withinSpan name

theorem compositional_onlySends : Compositional (@OnlySends State) where
  value _ _ := trivial
  bind := OnlySends.bind
  log _ _ := trivial
  countTest := onlySends_recount _ fun tally => List.prefix_refl tally.queue
  countPassed := onlySends_recount _ fun tally => List.prefix_refl tally.queue
  announce event := onlySends_recount _ fun tally => List.prefix_append tally.queue [event]
  within name depth _ only := only.within name depth

/-- The execution of a group only appends to the channel. -/
theorem onlySends_executeGroup (boundary : Boundary) (depth : Nat)
    (group : Group (Action State)) : OnlySends (executeGroup boundary depth group) :=
  compositional_onlySends.executeGroup depth group fun _ _ => onlySends_await _

end Execution

/-! ### Executions with a thread beside them -/

/-- How many events a thread takes at most before each step of the execution beside it. -/
abbrev Pace := Nat → Nat

namespace Execution

variable (formatter : Formatter Kept Error) (pace : Pace)

/-- Let the thread take this many events at most. -/
def meanwhile (count : Nat) (rest : Future (State × Tally × Listener Kept Error) Value) :
    Future (State × Tally × Listener Kept Error) Value :=
  .read fun (state, tally, listener) =>
    .write (state, tally, listener.receiveUpTo formatter tally.queue count) rest

/-- The same execution with the thread of a formatter beside it. Between any two steps of the
execution, the thread takes as many of the events that wait as the pace says. -/
def beside (step : Nat) :
    Execution State Value → Future (State × Tally × Listener Kept Error) Value
  | .ready value => .ready value
  | .unwind payload => .unwind payload
  | .pending rest => meanwhile formatter (pace step) (.pending (beside (step + 1) rest))
  | .send signal rest => meanwhile formatter (pace step) (.send signal (beside (step + 1) rest))
  | .read next => meanwhile formatter (pace step)
      (.read fun (state, tally, _) => beside (step + 1) (next (state, tally)))
  | .write (state, tally) rest => meanwhile formatter (pace step)
      (.read fun (_, _, listener) => .write (state, tally, listener) (beside (step + 1) rest))

/-- The execution is completed as it would be without the thread, and the thread has kept abreast
of the channel. -/
theorem complete_beside (opening : Delivery Kept Error) (step : Nat)
    (execution : Execution State Value) (state : State) (tally : Tally)
    (listener : Listener Kept Error) (only : Extends tally.queue execution)
    (abreast : listener.Abreast formatter opening tally.queue) :
    let completed := execution.complete (state, tally)
    ∃ after : Listener Kept Error, after.Abreast formatter opening completed.state.2.queue ∧
      (execution.beside formatter pace step).complete (state, tally, listener) =
        ⟨completed.signals, (completed.state.1, completed.state.2, after), completed.result,
          completed.suspensions⟩ := by
  induction execution generalizing step state tally listener with
  | ready value => exact ⟨listener, abreast, rfl⟩
  | unwind payload => exact ⟨listener, abreast, rfl⟩
  | pending rest inductionHypothesis =>
    obtain ⟨after, kept, same⟩ := inductionHypothesis (step + 1) state tally _ only
      (abreast.receiveUpTo (pace step))
    refine ⟨after, kept, ?_⟩
    simp only [beside, meanwhile, Future.complete, same]
  | send signal rest inductionHypothesis =>
    obtain ⟨after, kept, same⟩ := inductionHypothesis (step + 1) state tally _ only
      (abreast.receiveUpTo (pace step))
    refine ⟨after, kept, ?_⟩
    simp only [beside, meanwhile, Future.complete, same]
  | read next inductionHypothesis =>
    obtain ⟨after, kept, same⟩ := inductionHypothesis (state, tally) (step + 1) state tally _
      (only (state, tally) rfl) (abreast.receiveUpTo (pace step))
    exact ⟨after, kept, same⟩
  | write both rest inductionHypothesis =>
    obtain ⟨after, kept, same⟩ := inductionHypothesis (step + 1) both.1 both.2 _ only.2
      ((abreast.receiveUpTo (pace step)).grow only.1)
    exact ⟨after, kept, same⟩

end Execution

/-! ### Runs with a thread beside them -/

namespace Runner

/-- The same run with the thread of its formatter at work beside it. -/
def conductBeside (runner : Runner State Kept Error) (pace : Pace) :
    Future State (Conclusion Kept Error) :=
  Future.sendAll (guardUp runner.boundary) (
    let opening := runner.formatter.deliver ⟨runner.initial, [], none⟩
      (.runStart runner.suite.testCount)
    match opening.panic with
    | some payload => abort runner.boundary opening.state [.panicked .main payload] payload
    | none =>
      let execution := Execution.executeGroup runner.boundary 0 runner.suite.root
      ((execution.beside runner.formatter pace 0).collect (Tally.zero, ⟨0, opening⟩)).bind
        fun (ended, tally, listener) =>
          runner.conclude (listener.drain runner.formatter tally.queue) ended tally)

/-- Whatever the pace of the thread, a run is completed in the same way. -/
theorem complete_conductBeside (runner : Runner State Kept Error) (pace : Pace) (state : State) :
    (runner.conductBeside pace).complete state = runner.conduct.complete state := by
  unfold conductBeside conduct
  rw [Future.complete_sendAll, Future.complete_sendAll]
  dsimp only
  cases calm : (runner.formatter.deliver ⟨runner.initial, [], none⟩
      (.runStart runner.suite.testCount)).panic with
  | some payload => rfl
  | none =>
    obtain ⟨after, abreast, same⟩ := Execution.complete_beside runner.formatter pace
      (runner.formatter.deliver ⟨runner.initial, [], none⟩ (.runStart runner.suite.testCount)) 0
      (Execution.executeGroup runner.boundary 0 runner.suite.root) state .zero _
      (Execution.onlySends_executeGroup runner.boundary 0 runner.suite.root [])
      (Listener.Abreast.start _ _)
    simp only [Execution.start, Future.complete_bind, Future.complete_collect, same,
      Future.Completed.andThen, abreast.drain_eq]

/-- A run and its report, with the thread of its formatter at work beside it. -/
def runBeside (runner : Runner State Kept Error) (pace : Pace) : Future State (Report Error) :=
  (runner.conductBeside pace).bind fun conclusion => .ofExcept conclusion.result

theorem complete_runBeside (runner : Runner State Kept Error) (pace : Pace) (state : State) :
    (runner.runBeside pace).complete state = runner.run.complete state := by
  unfold runBeside run
  rw [Future.complete_bind, Future.complete_bind, complete_conductBeside]

end Runner

end TestTree
