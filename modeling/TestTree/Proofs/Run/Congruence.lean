/-
This file says how a relation of calls gets to the executions that make them.

Two trees can have the same groups, tests and hooks and differ in what stands in the place of the
actions, even in the states that these work on. Their executions are put together in the same way
from the same parts, the calls apart. So a relation between executions that holds of the parts
without calls, and that is kept by putting parts together, holds of the executions of the two trees
as soon as it holds of the calls in each place.
-/

import TestTree.Proofs.Suite.Mapping
import TestTree.Run.Execution

namespace TestTree

namespace Execution

/-- A relation of executions that each part without calls has to itself, and that is kept by putting
parts together. -/
structure Congruent {One Two : Type}
    (Alike : {Value : Type} → Execution One Value → Execution Two Value → Prop) : Prop where
  value : ∀ {Value : Type} (value : Value), Alike (pure value) (pure value)
  bind : ∀ {Value Other : Type} {one : Execution One Value} {two : Execution Two Value}
    {next : Value → Execution One Other} {further : Value → Execution Two Other}, Alike one two →
      (∀ value, Alike (next value) (further value)) → Alike (one >>= next) (two >>= further)
  log : ∀ record, Alike (log record) (log record)
  countTest : Alike countTest countTest
  countPassed : Alike countPassed countPassed
  announce : ∀ event, Alike (announce event) (announce event)
  within : ∀ {Value : Type} (name : String) (depth : Nat) {one : Execution One Value}
    {two : Execution Two Value}, Alike one two →
      Alike (within name depth one) (within name depth two)

/-- The two actions that stand in one place are called alike. -/
def CalledAlike {One Two Act : Type}
    (Alike : {Value : Type} → Execution One Value → Execution Two Value → Prop)
    (boundary : Boundary) (first : Act → Action One) (second : Act → Action Two) (act : Act) :
    Prop :=
  Alike (perform boundary (first act)) (perform boundary (second act))

namespace Congruent

variable {One Two Act : Type}
  {Alike : {Value : Type} → Execution One Value → Execution Two Value → Prop}
  (congruent : Congruent @Alike) {boundary : Boundary} {first : Act → Action One}
  {second : Act → Action Two}

include congruent

/-! ### Tests -/

theorem runHook {hooks : Hooks Act}
    (alike : ∀ act ∈ hooks.actions, CalledAlike @Alike boundary first second act)
    (slot : HookSlot) :
    Alike (runHook boundary (hooks.map first) slot) (runHook boundary (hooks.map second) slot) := by
  unfold Execution.runHook
  rw [Hooks.get?_map, Hooks.get?_map]
  cases found : hooks.get? slot with
  | none => exact congruent.value none
  | some act =>
    refine congruent.bind (alike act (Hooks.mem_actions found)) fun result => ?_
    cases result <;> exact congruent.value _

theorem runAction {test : Test Act}
    (alike : CalledAlike @Alike boundary first second test.action) (before : Option Failure) :
    Alike (runAction boundary (test.map first) before)
      (runAction boundary (test.map second) before) := by
  cases before with
  | some failure => exact congruent.value _
  | none =>
    refine congruent.bind alike fun result => ?_
    cases result <;> exact congruent.value _

theorem logOutcome (test : String) (outcome : Outcome) :
    Alike (logOutcome test outcome) (logOutcome test outcome) := by
  obtain ⟨status, teardown⟩ := outcome
  cases status <;> cases teardown <;> rw [Execution.logOutcome, Execution.logOutcome]
  case passed.none => exact congruent.value ()
  all_goals exact congruent.log _

theorem runTest {hooks : Hooks Act}
    (hooksAlike : ∀ act ∈ hooks.actions, CalledAlike @Alike boundary first second act)
    {test : Test Act} (alike : CalledAlike @Alike boundary first second test.action) :
    Alike (runTest boundary (hooks.map first) (test.map first))
      (runTest boundary (hooks.map second) (test.map second)) := by
  refine congruent.bind (congruent.runHook hooksAlike .beforeEach) fun before => ?_
  refine congruent.bind (congruent.runAction alike before) fun status => ?_
  refine congruent.bind (congruent.runHook hooksAlike .afterEach) fun teardown => ?_
  exact congruent.bind (congruent.logOutcome test.name ⟨status, teardown⟩) fun _ =>
    congruent.value _

theorem countedTest {hooks : Hooks Act}
    (hooksAlike : ∀ act ∈ hooks.actions, CalledAlike @Alike boundary first second act) (depth : Nat)
    {test : Test Act}
    (alike : CalledAlike @Alike boundary first second test.action) :
    Alike (countedTest boundary (hooks.map first) depth (test.map first))
      (countedTest boundary (hooks.map second) depth (test.map second)) := by
  refine congruent.bind congruent.countTest fun _ => ?_
  refine congruent.bind (congruent.runTest hooksAlike alike) fun outcome => ?_
  have announced := congruent.bind
    (congruent.announce (.testOutcome test.name depth outcome)) fun _ =>
      congruent.value (test.name, outcome)
  by_cases passed : outcome.isPassed = true
  · rw [if_pos passed, if_pos passed]
    exact congruent.bind congruent.countPassed fun _ => announced
  · rw [if_neg passed, if_neg passed]
    exact announced

theorem runTests {hooks : Hooks Act}
    (hooksAlike : ∀ act ∈ hooks.actions, CalledAlike @Alike boundary first second act) (depth : Nat)
    {tests : List (Test Act)}
    (alike : ∀ act ∈ tests.map Test.action, CalledAlike @Alike boundary first second act) :
    Alike (runTests boundary (hooks.map first) depth (tests.map (Test.map first)))
      (runTests boundary (hooks.map second) depth (tests.map (Test.map second))) := by
  induction tests with
  | nil => exact congruent.value []
  | cons test rest inductionHypothesis =>
    rw [List.map_cons, List.forall_mem_cons] at alike
    refine congruent.bind (congruent.countedTest hooksAlike depth alike.1) fun _ => ?_
    exact congruent.bind (inductionHypothesis alike.2) fun _ => congruent.value _

/-! ### Groups -/

theorem announceGroup (name : Option String) (tests depth : Nat) :
    Alike (announceGroup name tests depth) (announceGroup name tests depth) := by
  cases name with
  | none => exact congruent.value ()
  | some name => exact congruent.bind (congruent.log _) fun _ => congruent.announce _

mutual

/-- A relation between the calls in each place of a tree holds between the executions. -/
theorem executeGroup (depth : Nat) : (group : Group Act) →
    (∀ act ∈ group.actions, CalledAlike @Alike boundary first second act) →
      Alike (executeGroup boundary depth (group.map first))
        (executeGroup boundary depth (group.map second))
  | ⟨name, tests, children, hooks⟩, alike => by
    simp only [Group.actions, List.forall_mem_append] at alike
    obtain ⟨⟨hooksAlike, testsAlike⟩, childrenAlike⟩ := alike
    rw [Group.map, Group.map, Execution.executeGroup, Execution.executeGroup, List.length_map,
      List.length_map]
    refine congruent.within _ depth ?_
    refine congruent.bind (congruent.announceGroup name tests.length depth) fun _ => ?_
    refine congruent.bind (congruent.runTests hooksAlike (depth + 1) testsAlike) ?_
    intro outcomes
    exact congruent.bind (executeGroups (depth + 1) children childrenAlike) fun reports =>
      congruent.value _

theorem executeGroups (depth : Nat) : (groups : List (Group Act)) →
    (∀ act ∈ Group.actionsBelow groups, CalledAlike @Alike boundary first second act) →
      Alike (executeGroups boundary depth (Group.mapAll first groups))
        (executeGroups boundary depth (Group.mapAll second groups))
  | [], _ => congruent.value []
  | group :: rest, alike => by
    simp only [Group.actionsBelow, List.forall_mem_append] at alike
    rw [Group.mapAll, Group.mapAll, Execution.executeGroups, Execution.executeGroups]
    refine congruent.bind (executeGroup depth group alike.1) fun report => ?_
    exact congruent.bind (executeGroups depth rest alike.2) fun reports =>
      congruent.value _

end

end Congruent

end Execution

end TestTree
