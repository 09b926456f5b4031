/-
This file proves what a run answers that is awaited inside an action.

The plan of a run is carried out inside an action as it is by itself. From a state in which the
variables that it checks have the same values, it comes to the same record within as many polls,
and it does to the shared state what it does by itself. The action learns of this only whether the
run panicked: then the action panics with the same payload, and otherwise the record is kept.
-/

import TestTree.Proofs.Overlap.Script
import TestTree.Proofs.Run.Conclusion

namespace TestTree

open Future

/-- What an action learns of a run that it awaited. -/
def RunRecord.answer (record : RunRecord) : Except Payload Unit :=
  match record.ending with
  | .panicked payload => .error payload
  | _ => .ok ()

/-- What an action keeps of a run that it awaited. -/
def RunRecord.kept (record : RunRecord) : List RunRecord :=
  match record.ending with
  | .panicked _ => []
  | _ => [record]

namespace Plan

/-! ### Plans come to records -/

theorem exists_yields_runPolled (plan : Plan) (driven : Bool) (suite : Suite Behaviour)
    (before : Shared) : ∃ record after, (plan.runPolled driven suite).Yields before record after := by
  obtain ⟨conclusion, after, confined⟩ :=
    (plan.runner driven suite).exists_yields_confine [] before
  exact ⟨plan.record conclusion, after, confined.bind ⟨rfl, rfl⟩⟩

/-- A plan that is carried out always comes to a record. -/
theorem exists_yields_conduct (plan : Plan) (driven : Bool) (before : Shared) :
    ∃ record after, (plan.conduct driven).Yields before record after := by
  have carried : ∃ record after,
      (plan.carryOn driven (Statement.session plan.body).outcome).Yields before record after := by
    cases (Statement.session plan.body).outcome with
    | error failure => exact ⟨_, before, rfl, rfl⟩
    | ok suite =>
      rw [carryOn_ok]
      by_cases blocking : plan.blocking = true
      · rw [if_pos blocking]
        cases driven with
        | true => exact ⟨_, before, rfl, rfl⟩
        | false =>
          obtain ⟨record, after, polled⟩ := plan.exists_yields_runPolled true suite before
          refine ⟨record, after, ?_⟩
          show (plan.runPolled true suite).uninterrupted.Yields before record after
          unfold Yields
          rw [complete_uninterrupted]
          exact polled
      · rw [if_neg blocking]
        exact plan.exists_yields_runPolled driven suite before
  obtain ⟨record, after, yields⟩ := carried
  exact ⟨record, after, (yields_sendAll_iff _ _ _ before after).mpr yields⟩

/-! ### Awaited runs -/

/-- An action that awaits a run finds the state as the run left it, with the record kept. -/
theorem complete_nested {plan : Plan} {driven : Bool} {shared : Shared} {record : RunRecord}
    (returned : ((plan.conduct driven).complete shared).result = .ok record) :
    (plan.nested driven).complete shared =
      ⟨((plan.conduct driven).complete shared).signals,
        { ((plan.conduct driven).complete shared).state with
          inner := ((plan.conduct driven).complete shared).state.inner ++ record.kept },
        record.answer, ((plan.conduct driven).complete shared).suspensions⟩ := by
  unfold nested
  rw [complete_bind, Completed.andThen, returned]
  obtain ⟨ending, outlet⟩ := record
  cases ending <;>
    simp only [complete, Shared.keep, RunRecord.kept, RunRecord.answer, List.append_nil,
      Nat.add_zero]

/-- Inside an action that finds one state, a plan answers as it does by itself on another. -/
structure AnswersAs (plan : Plan) (driven : Bool) (inside outside : Shared)
    (record : RunRecord) : Prop where
  returned : ((plan.conduct driven).complete outside).result = .ok record
  result : ((plan.nested driven).complete inside).result = record.answer
  polls : ((plan.nested driven).complete inside).polls =
    ((plan.conduct driven).complete outside).polls
  signals : ((plan.nested driven).complete inside).signals =
    ((plan.conduct driven).complete outside).signals
  log : ∃ texts, ((plan.nested driven).complete inside).state.log = inside.log ++ texts ∧
    ((plan.conduct driven).complete outside).state.log = outside.log ++ texts
  inner : ∃ records,
    ((plan.nested driven).complete inside).state.inner = inside.inner ++ records ++ record.kept ∧
    ((plan.conduct driven).complete outside).state.inner = outside.inner ++ records
  value : ∃ amount : String → Int, ∀ name,
    ((plan.nested driven).complete inside).state.value name = inside.value name + amount name ∧
    ((plan.conduct driven).complete outside).state.value name = outside.value name + amount name

/-- A run that is awaited inside an action answers what it answers by itself from the same values
of the variables that it checks. -/
theorem exists_answersAs {plan : Plan} {checks changes : String → Prop}
    (within : ∀ step ∈ plan.steps, step.Within checks changes) (driven : Bool)
    {inside outside : Shared}
    (same : ∀ name, checks name → inside.value name = outside.value name) :
    ∃ record, plan.AnswersAs driven inside outside record := by
  have steady := steady_conduct (fun step member => (within step member).steady) driven
  obtain ⟨edit, signals, result, suspensions, edits, completedInside, completedOutside⟩ :=
    steady.complete same
  obtain ⟨record, _, returned, _⟩ := plan.exists_yields_conduct driven inside
  obtain ⟨⟨texts, logged⟩, ⟨records, kept⟩, amount, _, added⟩ := edits
  have nested := complete_nested returned
  rw [completedInside] at returned nested
  cases returned
  refine ⟨record, ?_⟩
  constructor
  · rw [completedOutside]
  · rw [nested]
  · rw [nested, completedOutside]
    rfl
  · rw [nested, completedOutside]
  · rw [nested, completedOutside]
    exact ⟨texts, logged inside, logged outside⟩
  · rw [nested, completedOutside]
    exact ⟨records, congrArg (· ++ record.kept) (kept inside), kept outside⟩
  · rw [nested, completedOutside]
    exact ⟨amount, fun name => ⟨added inside name, added outside name⟩⟩

end Plan

end TestTree
