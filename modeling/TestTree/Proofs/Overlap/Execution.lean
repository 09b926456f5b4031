/-
This file proves that a run of steady actions is steady.

A run keeps its books, its formatter and its history to itself. All it does to the state that it
shares with others is what its actions do to it, so if each of its actions is steady, the whole
run is.
-/

import TestTree.Proofs.Overlap.Footprint
import TestTree.Proofs.Run.Call
import TestTree.Proofs.Run.Composition
import TestTree.Run.Runner

namespace TestTree

variable {State : Type} {footprint : Footprint State}

/-! ### Actions -/

/-- The call of the action is steady, and so is every future that it can yield. -/
structure Action.Steady (footprint : Footprint State) (action : Action State) : Prop where
  call : action.call.Steady footprint
  future : ∀ state future, (action.call.run state).result = .ok future → future.Steady footprint

/-- A boundary lets a steady action stay steady. -/
theorem Action.Steady.enclose {action : Action State} (steady : action.Steady footprint)
    (boundary : Boundary) : (boundary.enclose action.call).follow.Steady footprint := by
  have followed : action.call.follow.Steady footprint := .follow steady.call steady.future
  rw [Boundary.follow_enclose]
  cases boundary with
  | isolating silent => exact followed.attempt.bind fun _ => .ready _
  | transparent => exact followed.bind fun _ => .ready _

/-! ### Executions -/

namespace Execution

open Future

theorem steady_recount (change : Tally → Tally) :
    (recount change : Execution State Unit).Steady (footprint.beside Tally) :=
  .modify ⟨id, change, footprint.edit_id, rfl⟩

theorem compositional_steady :
    Compositional fun {_} (execution : Execution State _) =>
      execution.Steady (footprint.beside Tally) where
  value := .ready
  bind := .bind
  log record := (Steady.ready ()).send (.logged record)
  countTest := steady_recount _
  countPassed := steady_recount _
  announce _ := steady_recount _
  within name depth _ steady := (steady.instrument name).send (.spanCreated name depth)

/-- The execution of a group of steady actions is steady. -/
theorem steady_executeGroup (boundary : Boundary) (depth : Nat) (group : Group (Action State))
    (steady : ∀ action ∈ group.actions, action.Steady footprint) :
    (executeGroup boundary depth group).Steady (footprint.beside Tally) :=
  compositional_steady.executeGroup depth group fun action member =>
    ((steady action member).enclose boundary).onFirst

end Execution

/-! ### Runs -/

namespace Runner

open Future

variable {Kept Error : Type}

theorem steady_abort (boundary : Boundary) (kept : Kept) (signals : List Signal)
    (payload : Payload) :
    (abort boundary kept signals payload : Future State (Conclusion Kept Error)).Steady footprint :=
  (Steady.ready _).sendAll _

theorem steady_conclude (runner : Runner State Kept Error)
    (delivery : Formatter.Delivery Kept Error) (result : Except Payload ReportNode)
    (tally : Tally) : (runner.conclude delivery result tally).Steady footprint := by
  cases result with
  | error payload => exact steady_abort _ _ _ _
  | ok root =>
    unfold conclude
    cases delivery.panic with
    | some payload => exact steady_abort _ _ _ _
    | none =>
      refine .send _ ?_
      cases (runner.formatter.deliver delivery (.runOutcomes (summary tally))).panic with
      | some payload => exact steady_abort _ _ _ _
      | none => exact (Steady.ready _).sendAll _

/-- A run of steady actions is steady, under either boundary and with any formatter. -/
theorem steady_conduct (runner : Runner State Kept Error)
    (steady : ∀ action ∈ runner.suite.root.actions, action.Steady footprint) :
    runner.conduct.Steady footprint := by
  unfold conduct
  refine .sendAll _ ?_
  dsimp only
  cases (runner.formatter.deliver ⟨runner.initial, [], none⟩
      (.runStart runner.suite.testCount)).panic with
  | some payload => exact steady_abort _ _ _ _
  | none =>
    refine .bind ?_ fun ended => steady_conclude runner _ _ _
    exact (Execution.steady_executeGroup runner.boundary 0 runner.suite.root steady).collect _

end Runner

end TestTree
