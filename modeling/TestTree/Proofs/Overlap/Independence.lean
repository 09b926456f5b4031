/-
This file proves that overlapping runs do not disturb each other.

Runs of scripted actions are polled in any order on one shared state, each under its own boundary
and with its own formatter. If no run checks a variable that another one changes, each of them
ends as it would end alone, with the same conclusion, the same events, and within as many polls,
and the entries that it adds to the shared log are those that it would add alone. A run that is
awaited inside an action of one of them answers what it would answer by itself, and the run around
it sees no more of it than what the action comes to.
-/

import TestTree.Proofs.Overlap.Nested
import TestTree.Proofs.Overlap.Pool
import TestTree.Proofs.Run.Distillation
import TestTree.Proofs.Run.Recording

namespace TestTree

open Future

/-! ### Scripted runs -/

/-- A suite of behaviours with the strategies that it is run with. -/
structure ScriptedRun (Kept Error : Type) where
  suite : Suite Behaviour
  boundary : Boundary
  formatter : Formatter Kept Error
  initial : Kept

namespace ScriptedRun

variable {Kept Error : Type}

/-- The runner of a scripted run. -/
def runner (run : ScriptedRun Kept Error) : Runner (Recounted Shared) Kept Error :=
  ⟨run.suite.scripted false, run.boundary, run.formatter, run.initial⟩

/-- A scripted run on the shared state, with the events that its formatter is told of kept beside
the formatter. The history of its calls is its own. -/
def future (run : ScriptedRun Kept Error) :
    Future Shared (Conclusion (Kept × List Event) Error) :=
  run.runner.recorded.conduct.confine []

/-- But for the kept events, a scripted run is the run of its runner. -/
theorem future_forgetting (run : ScriptedRun Kept Error) :
    run.future.bind Runner.forgetting = run.runner.conduct.confine [] := by
  rw [← run.runner.conduct_recorded]
  exact (confine_bind_ready [] run.runner.recorded.conduct Conclusion.forget).symm

theorem steady_future {run : ScriptedRun Kept Error} {checks changes : String → Prop}
    (within : ∀ step ∈ run.suite.steps, step.Within checks changes) :
    run.future.Steady (Shared.footprint checks changes) := by
  refine .confine [] (run.runner.recorded.steady_conduct ?_)
  exact Suite.steady_scripted (fun step member => (within step member).steady) false

end ScriptedRun

/-! ### Independence -/

namespace Pool

/-- Whatever the order in which runs are polled, each of them ends as it would end alone. A run
that is awaited inside an action answers what it would answer by itself, and the run around it
comes to what it comes to if each action does its work at once. -/
theorem runs_independent {Index : Type} [DecidableEq Index] {Kept Error : Index → Type}
    (runs : (index : Index) → ScriptedRun (Kept index) (Error index))
    (checks changes : Index → String → Prop)
    (within : ∀ index, ∀ step ∈ (runs index).suite.steps,
      step.Within (checks index) (changes index))
    (apart : ∀ index other, index ≠ other → ∀ name, checks index name → ¬ changes other name)
    (start : Shared) (order : List Index) :
    let pool := (opened (fun index => (runs index).future) start).pollAll order
    pool.shared.log = start.log ++ pool.log.map Prod.snd ∧
    ∀ index,
      (∃ conclusion, ((runs index).future.complete start).result = .ok conclusion) ∧
      pool.AsAlone index ((runs index).future.complete start) start (order.count index) ∧
      (∀ plan : Plan, (∀ step ∈ plan.steps, step.Within (checks index) (changes index)) →
        ∀ (driven : Bool) (inside outside : Shared),
          (∀ name, checks index name → inside.value name = outside.value name) →
            ∃ record, plan.AnswersAs driven inside outside record) ∧
      (runs index).runner.recorded.distilled.conduct.upshot =
        (runs index).runner.recorded.conduct.upshot := by
  intro pool
  have steady := fun index => ScriptedRun.steady_future (within index)
  have simulated := (simulated_opened steady start).pollAll apart order
  refine ⟨simulated.log, fun index => ⟨?_, ?_, ?_, ?_⟩⟩
  · obtain ⟨conclusion, _, returned, _⟩ :=
      (runs index).runner.recorded.exists_yields_confine [] start
    exact ⟨conclusion, returned⟩
  · obtain ⟨alone, follows⟩ := simulated.runs index
    rw [Nat.zero_add] at follows
    exact follows.asAlone
  · intro plan steps driven inside outside same
    exact Plan.exists_answersAs steps driven same
  · exact (runs index).runner.recorded.upshot_conduct_distilled

/-- A plan whose only test suspends before it adds to a variable. -/
def lodger : Plan :=
  ⟨[.it "added" ⟨false, false, [], [[.suspend 1, .add "x" 1]]⟩], false, .standard, .silent, []⟩

/-- Two runs of one test each. The test of one awaits the lodger and checks its variable, that of
the other one adds to another variable and panics at its second poll, and nobody catches it. -/
def pair : Bool → ScriptedRun Unit Empty
  | false => ⟨⟨⟨none, [⟨"host", ⟨false, false, [],
      [[.log "left", .await lodger.nested, .check "x" 1]]⟩⟩], [], .empty⟩⟩, .standard, .silent, ()⟩
  | true => ⟨⟨⟨none, [⟨"lost", ⟨false, false, [],
      [[.log "right", .add "y" 1, .suspend 1, .panic (.raised (.text "gone"))]]⟩⟩], [],
      .empty⟩⟩, .transparent, .silent, ()⟩

/-- The variable of each of the two runs. -/
def pairVariable (index : Bool) : String := if index then "y" else "x"

theorem within_pair (index : Bool) : ∀ step ∈ (pair index).suite.steps,
    step.Within (Eq (pairVariable index)) (Eq (pairVariable index)) := by
  cases index with
  | false =>
    have lodging : ∀ step ∈ lodger.steps, step.Within (Eq "x") (Eq "x") := by
      show ∀ step ∈ [Step.suspend 1, .add "x" 1], _
      simp only [List.forall_mem_cons]
      exact ⟨.suspend 1, .add "x" 1 rfl, fun _ member => absurd member List.not_mem_nil⟩
    show ∀ step ∈ [Step.log "left", .await lodger.nested, .check "x" 1], _
    simp only [List.forall_mem_cons]
    exact ⟨.log "left", .await lodger lodging, .check "x" 1 rfl,
      fun _ member => absurd member List.not_mem_nil⟩
  | true =>
    show ∀ step ∈ [Step.log "right", .add "y" 1, .suspend 1, .panic (.raised (.text "gone"))], _
    simp only [List.forall_mem_cons]
    exact ⟨.log "right", .add "y" 1 rfl, .suspend 1, .panic _,
      fun _ member => absurd member List.not_mem_nil⟩

theorem runs_independent_pair :
    let pool := (opened (fun index => (pair index).future) .empty).pollAll
      [false, true, true, true, false]
    (∀ index other, index ≠ other → ∀ name, pairVariable index = name →
      ¬ pairVariable other = name) ∧
    pool.shared.log = pool.log.map Prod.snd ∧
    (pool.seats false).progress = .ready ⟨((), [.runStart 1, .testOutcome "host" 1 ⟨.passed, none⟩,
      .runOutcomes ⟨1, 1, 0, 0⟩]), .ok ⟨⟨none, [("host", ⟨.passed, none⟩)], [], true⟩, 1, 1, []⟩⟩ ∧
    (pool.seats true).progress = .ready ⟨((), [.runStart 1]), .error (.text "gone")⟩ := by
  have apart : ∀ index other, index ≠ other → ∀ name, pairVariable index = name →
      ¬ pairVariable other = name := by
    rintro index other different _ rfl same
    revert different same
    cases index <;> cases other <;> decide
  intro pool
  obtain ⟨log, runs⟩ := @runs_independent Bool _ (fun _ => Unit) (fun _ => Empty) pair
    (fun index => Eq (pairVariable index)) (fun index => Eq (pairVariable index)) within_pair apart
    .empty [false, true, true, true, false]
  exact ⟨apart, log, ((runs false).2.1.finished (Nat.le_refl 2)).result,
    ((runs true).2.1.finished (Nat.le_succ 2)).result⟩

end Pool

end TestTree
