/-
This file proves that a run sees nothing of an action but what the action comes to.

An action is distilled by doing all of its work at once when it is called: it leaves the state
that the action leaves and reports what the action reports, and whatever it did on the way, other
runs that it awaited included, is gone. A run of distilled actions concludes as the run itself
does, with the same events, the same counts and the same outcomes.
-/

import TestTree.Proofs.Run.Call
import TestTree.Proofs.Run.Congruence
import TestTree.Run.Runner

namespace TestTree

variable {State Value Other Part : Type}

/-! ### What futures come to -/

namespace Future

/-- The state that a future leaves and its result, if it is driven to its end. -/
def upshot (future : Future State Value) (state : State) : State × Except Payload Value :=
  ((future.complete state).state, (future.complete state).result)

theorem upshot_bind {future changed : Future State Value}
    {next altered : Value → Future State Other} (same : future.upshot = changed.upshot)
    (continued : ∀ value, (next value).upshot = (altered value).upshot) :
    (future.bind next).upshot = (changed.bind altered).upshot := by
  funext state
  obtain ⟨left, result⟩ := Prod.ext_iff.mp (congrFun same state)
  simp only [upshot] at left result
  simp only [upshot, complete_bind, Completed.andThen, left, result]
  cases (changed.complete state).result with
  | error payload => rfl
  | ok value => exact congrFun (continued value) _

theorem upshot_send (signal : Signal) {future changed : Future State Value}
    (same : future.upshot = changed.upshot) :
    (Future.send signal future).upshot = (Future.send signal changed).upshot :=
  same

theorem upshot_withinSpan (name : String) (future : Future State Value) :
    (future.withinSpan name).upshot = future.upshot := by
  funext state
  unfold upshot
  rw [complete_withinSpan]
  rfl

theorem upshot_instrument (name : String) (future : Future State Value) :
    (future.instrument name).upshot = future.upshot :=
  upshot_withinSpan name future

theorem upshot_onFirst {future changed : Future State Value}
    (same : future.upshot = changed.upshot) :
    (future.onFirst : Future (State × Part) Value).upshot = changed.onFirst.upshot := by
  funext ⟨state, part⟩
  obtain ⟨left, result⟩ := Prod.ext_iff.mp (congrFun same state)
  simp only [upshot] at left result
  simp only [upshot, complete_onFirst, left, result]

theorem upshot_collect {future changed : Future (State × Part) Value} (own : Part)
    (same : future.upshot = changed.upshot) :
    (future.collect own).upshot = (changed.collect own).upshot := by
  funext state
  obtain ⟨left, result⟩ := Prod.ext_iff.mp (congrFun same (state, own))
  simp only [upshot] at left result
  simp only [upshot, complete_collect, left, result]

theorem upshot_sendAll (signals : List Signal) {future changed : Future State Value}
    (same : future.upshot = changed.upshot) :
    (sendAll signals future).upshot = (sendAll signals changed).upshot := by
  funext state
  simp only [upshot, complete_sendAll]
  exact congrFun same state

end Future

/-! ### Distilled actions -/

/-- The action that does at once what another one comes to. -/
def Action.distilled (action : Action State) : Action State :=
  .blocking fun state => ⟨[], (action.settle state).1, (action.settle state).2⟩

theorem Action.settle_distilled (action : Action State) :
    action.distilled.settle = action.settle := by
  funext state
  unfold distilled
  generalize action.settle = settled
  simp only [settle, call, Immediate.run, Immediate.bind]
  cases settled state with
  | mk left result => cases result <;> rfl

namespace Execution

open Future

variable (boundary : Boundary)

theorem upshot_perform (action : Action State) :
    (perform boundary action.distilled).upshot = (perform boundary action).upshot := by
  refine upshot_onFirst ?_
  funext state
  obtain ⟨left, result⟩ := complete_enclose boundary action state
  obtain ⟨leftDistilled, resultDistilled⟩ := complete_enclose boundary action.distilled state
  rw [Action.settle_distilled] at leftDistilled resultDistilled
  exact Prod.ext (leftDistilled.trans left.symm) (resultDistilled.trans result.symm)

theorem congruent_upshot :
    Congruent fun {_} (one other : Execution State _) => one.upshot = other.upshot where
  value _ := rfl
  bind := upshot_bind
  log _ := rfl
  countTest := rfl
  countPassed := rfl
  announce _ := rfl
  within name _ _ _ same := by
    refine upshot_send _ ?_
    rw [upshot_instrument, upshot_instrument]
    exact same

theorem upshot_executeGroup (depth : Nat) (group : Group (Action State)) :
    (executeGroup boundary depth (group.map Action.distilled)).upshot =
      (executeGroup boundary depth group).upshot := by
  have same : (executeGroup boundary depth (group.map Action.distilled)).upshot =
      (executeGroup boundary depth (group.map id)).upshot :=
    congruent_upshot.executeGroup depth group fun action _ => upshot_perform boundary action
  rwa [Group.map_id] at same

end Execution

/-! ### Runs of distilled actions -/

/-- The same run with every action distilled. -/
def Runner.distilled {Kept Error : Type} (runner : Runner State Kept Error) :
    Runner State Kept Error :=
  { runner with suite := runner.suite.map Action.distilled }

/-- A run concludes as it does with each of its actions distilled. -/
theorem Runner.upshot_conduct_distilled {Kept Error : Type} (runner : Runner State Kept Error) :
    runner.distilled.conduct.upshot = runner.conduct.upshot := by
  have counted : (runner.suite.map Action.distilled).testCount = runner.suite.testCount :=
    Group.testCount_map Action.distilled runner.suite.root
  have executed := Execution.upshot_executeGroup runner.boundary 0 runner.suite.root
  simp only [conduct, distilled, counted]
  refine Future.upshot_sendAll _ ?_
  cases (runner.formatter.deliver ⟨runner.initial, [], none⟩
      (.runStart runner.suite.testCount)).panic with
  | some payload => rfl
  | none => exact Future.upshot_bind (Future.upshot_collect _ executed) fun _ => rfl

end TestTree
