/-
This file says how a property of the parts of executions gets to the whole.

The execution of a tree is put together from a few parts: values, records in the log, counts, queued
events, and calls of actions. There are two ways to put them together, one after another and within
a span. A property that is kept in both ways, and that the parts have which call no action, is a
property of the execution of every group whose actions are called with this property.
-/

import TestTree.Proofs.Run.Congruence

namespace TestTree

namespace Execution

variable {State : Type}

/-- A property of executions that the parts without actions have, and that is kept by putting parts
together. -/
structure Compositional (Holds : {Value : Type} → Execution State Value → Prop) : Prop where
  value : ∀ {Value : Type} (value : Value), Holds (pure value)
  bind : ∀ {Value Other : Type} {execution : Execution State Value}
    {next : Value → Execution State Other}, Holds execution → (∀ value, Holds (next value)) →
      Holds (execution >>= next)
  log : ∀ record, Holds (log record)
  countTest : Holds countTest
  countPassed : Holds countPassed
  announce : ∀ event, Holds (announce event)
  within : ∀ {Value : Type} (name : String) (depth : Nat) {execution : Execution State Value},
    Holds execution → Holds (within name depth execution)

namespace Compositional

variable {Holds : {Value : Type} → Execution State Value → Prop}
  (compositional : Compositional @Holds) {boundary : Boundary}

include compositional

/-- A property is the relation of each execution that has it to itself. -/
theorem congruent : Congruent fun {_} (one two : Execution State _) => one = two ∧ Holds one where
  value _ := ⟨rfl, compositional.value _⟩
  bind := by
    rintro _ _ one _ next further ⟨rfl, holds⟩ continued
    have same : next = further := funext fun value => (continued value).1
    exact ⟨congrArg (one >>= ·) same, compositional.bind holds fun value => (continued value).2⟩
  log _ := ⟨rfl, compositional.log _⟩
  countTest := ⟨rfl, compositional.countTest⟩
  countPassed := ⟨rfl, compositional.countPassed⟩
  announce _ := ⟨rfl, compositional.announce _⟩
  within name depth _ _ alike :=
    ⟨congrArg (Execution.within name depth) alike.1, compositional.within name depth alike.2⟩

theorem runTests {hooks : Hooks (Action State)}
    (hooksPerform : ∀ action ∈ hooks.actions, Holds (perform boundary action)) (depth : Nat)
    {tests : List (Test (Action State))}
    (performs : ∀ action ∈ tests.map Test.action, Holds (perform boundary action)) :
    Holds (runTests boundary hooks depth tests) := by
  have kept : tests.map (Test.map id) = tests := List.map_id tests
  rw [← hooks.map_id, ← kept]
  exact (compositional.congruent.runTests (fun action member => ⟨rfl, hooksPerform action member⟩)
    depth fun action member => ⟨rfl, performs action member⟩).2

theorem announceGroup (name : Option String) (tests depth : Nat) :
    Holds (announceGroup name tests depth : Execution State Unit) :=
  (compositional.congruent.announceGroup name tests depth).2

/-- A property that the calls of the actions of a group have is a property of its execution. -/
theorem executeGroup (depth : Nat) (group : Group (Action State))
    (performs : ∀ action ∈ group.actions, Holds (perform boundary action)) :
    Holds (executeGroup boundary depth group) := by
  rw [← group.map_id]
  exact (compositional.congruent.executeGroup depth group fun action member =>
    ⟨rfl, performs action member⟩).2

theorem executeGroups (depth : Nat) (groups : List (Group (Action State)))
    (performs : ∀ action ∈ Group.actionsBelow groups, Holds (perform boundary action)) :
    Holds (executeGroups boundary depth groups) := by
  rw [← Group.mapAll_id groups]
  exact (compositional.congruent.executeGroups depth groups fun action member =>
    ⟨rfl, performs action member⟩).2

end Compositional

end Execution

end TestTree
