/-
This file is about the places of a tree at which labelled actions stand.

The actions of a tree are those of its groups, one group after another in the order of the walk. If
no label occurs twice, a label therefore tells which group it stands in, and within the group
whether it stands at a hook or at a test.
-/

import Mathlib.Data.List.Nodup
import Mathlib.Data.List.Pairwise
import TestTree.Proofs.Suite.Mapping

namespace TestTree

variable {Act Label : Type}

namespace Group

/-- The actions of a group itself: those of its hooks, and those of its own tests. -/
def ownActions (group : Group Act) : List Act :=
  group.hooks.actions ++ group.tests.map Test.action

mutual

/-- The tests of a group and of all groups below it. -/
def testsBelow : Group Act → List (Test Act)
  | ⟨_, tests, children, _⟩ => tests ++ testsBelowAll children

/-- The tests of several groups and of all groups below them. -/
def testsBelowAll : List (Group Act) → List (Test Act)
  | [] => []
  | group :: rest => group.testsBelow ++ testsBelowAll rest

end

/-! ### Walks of trees -/

mutual

/-- The actions of a tree are those of the groups of its walk. -/
theorem actions_eq_flatMap_walk (depth : Nat) :
    (group : Group Act) →
      group.actions = (group.walk depth).flatMap fun place => place.2.ownActions
  | ⟨name, tests, children, hooks⟩ => by
    rw [actions, walk, List.flatMap_cons, actionsBelow_eq_flatMap_walkAll (depth + 1) children]
    rfl

theorem actionsBelow_eq_flatMap_walkAll (depth : Nat) :
    (groups : List (Group Act)) →
      actionsBelow groups = (walkAll depth groups).flatMap fun place => place.2.ownActions
  | [] => rfl
  | group :: rest => by
    rw [actionsBelow, walkAll, List.flatMap_append, actions_eq_flatMap_walk depth group,
      actionsBelow_eq_flatMap_walkAll depth rest]

end

mutual

/-- The tests of a tree are those whose actions stand in it beside the hooks. -/
theorem map_testsBelow_sublist :
    (group : Group Act) → (group.testsBelow.map Test.action).Sublist group.actions
  | ⟨name, tests, children, hooks⟩ => by
    rw [testsBelow, actions, List.map_append]
    exact (List.sublist_append_right _ _).append (map_testsBelowAll_sublist children)

theorem map_testsBelowAll_sublist :
    (groups : List (Group Act)) →
      ((testsBelowAll groups).map Test.action).Sublist (actionsBelow groups)
  | [] => List.Sublist.slnil
  | group :: rest => by
    rw [testsBelowAll, actionsBelow, List.map_append]
    exact (map_testsBelow_sublist group).append (map_testsBelowAll_sublist rest)

end

theorem mem_actions_of_walk {depth : Nat} {group : Group Act} {place : Nat × Group Act}
    (reached : place ∈ group.walk depth) {action : Act} (own : action ∈ place.2.ownActions) :
    action ∈ group.actions := by
  rw [actions_eq_flatMap_walk depth group]
  exact List.mem_flatMap.mpr ⟨place, reached, own⟩

/-! ### Labels that occur once -/

section

variable {tree group : Group (Label × Act)} {depth : Nat} {first second : Nat × Group (Label × Act)}

/-- The labels of a group itself. -/
def ownLabels (group : Group (Label × Act)) : List Label := group.ownActions.map Prod.fst

theorem labels_eq_flatMap_walk (depth : Nat) (tree : Group (Label × Act)) :
    tree.actions.map Prod.fst = (tree.walk depth).flatMap fun place => place.2.ownLabels := by
  rw [actions_eq_flatMap_walk depth tree, List.map_flatMap]
  rfl

/-- Two groups of a walk that share a label are the same one. -/
theorem place_unique (distinct : (tree.actions.map Prod.fst).Nodup) (one : first ∈ tree.walk depth)
    (two : second ∈ tree.walk depth) {label : Label} (here : label ∈ first.2.ownLabels)
    (there : label ∈ second.2.ownLabels) : first = second := by
  rw [labels_eq_flatMap_walk depth tree, List.nodup_flatMap] at distinct
  by_contra different
  have symmetric : Std.Symm (Function.onFun List.Disjoint
      fun place : Nat × Group (Label × Act) => place.2.ownLabels) :=
    ⟨fun _ _ disjoint => List.disjoint_symm disjoint⟩
  exact distinct.2.forall one two different here there

theorem nodup_ownLabels (distinct : (tree.actions.map Prod.fst).Nodup)
    (reached : first ∈ tree.walk depth) : first.2.ownLabels.Nodup := by
  rw [labels_eq_flatMap_walk depth tree, List.nodup_flatMap] at distinct
  exact distinct.1 first reached

/-! ### Where a label stands in its group -/

/-- The label stands at the hook in a slot of the group. -/
def HookedBy (group : Group (Label × Act)) (slot : HookSlot) (label : Label) : Prop :=
  ∃ action, group.hooks.get? slot = some (label, action)

/-- The labels of the tests of the group itself. -/
def testLabels (group : Group (Label × Act)) : List Label :=
  group.tests.map fun test => test.action.1

theorem ownLabels_eq (group : Group (Label × Act)) :
    group.ownLabels = group.hooks.actions.map Prod.fst ++ group.testLabels := by
  rw [ownLabels, ownActions, List.map_append, List.map_map]
  rfl

theorem mem_ownLabels_of_hookedBy {slot : HookSlot} {label : Label}
    (hooked : group.HookedBy slot label) : label ∈ group.ownLabels := by
  obtain ⟨action, found⟩ := hooked
  rw [ownLabels_eq]
  exact List.mem_append_left _ (List.mem_map_of_mem (Hooks.mem_actions found))

theorem mem_ownLabels_of_testLabels {label : Label} (tested : label ∈ group.testLabels) :
    label ∈ group.ownLabels := by
  rw [ownLabels_eq]
  exact List.mem_append_right _ tested

/-- A label that stands at a hook of some group stands at no test of any group. -/
theorem not_mem_testLabels_of_hookedBy (distinct : (tree.actions.map Prod.fst).Nodup)
    (one : first ∈ tree.walk depth) (two : second ∈ tree.walk depth) {slot : HookSlot}
    {label : Label} (hooked : first.2.HookedBy slot label) : label ∉ second.2.testLabels := by
  intro tested
  obtain rfl := place_unique distinct one two (mem_ownLabels_of_hookedBy hooked)
    (mem_ownLabels_of_testLabels tested)
  obtain ⟨action, found⟩ := hooked
  have own := nodup_ownLabels distinct one
  rw [ownLabels_eq] at own
  exact List.disjoint_of_nodup_append own (List.mem_map_of_mem (Hooks.mem_actions found)) tested

theorem not_hookedBy_both (distinct : group.ownLabels.Nodup) {label : Label}
    (before : group.HookedBy .beforeEach label) (after : group.HookedBy .afterEach label) :
    False := by
  obtain ⟨name, tests, children, ⟨beforeEach, afterEach⟩⟩ := group
  obtain ⟨action, found⟩ := before
  obtain ⟨otherAction, otherFound⟩ := after
  obtain rfl : beforeEach = _ := found
  obtain rfl : afterEach = _ := otherFound
  rw [ownLabels_eq] at distinct
  have hooks := (List.nodup_append.mp distinct).1
  exact (List.nodup_cons.mp hooks).1 List.mem_cons_self

/-- A label stands at one hook at most. -/
theorem hook_unique (distinct : (tree.actions.map Prod.fst).Nodup) (one : first ∈ tree.walk depth)
    (two : second ∈ tree.walk depth) {slot other : HookSlot} {label : Label}
    (hooked : first.2.HookedBy slot label) (hookedToo : second.2.HookedBy other label) :
    first = second ∧ slot = other := by
  obtain rfl := place_unique distinct one two (mem_ownLabels_of_hookedBy hooked)
    (mem_ownLabels_of_hookedBy hookedToo)
  have own := nodup_ownLabels distinct one
  refine ⟨rfl, ?_⟩
  cases slot <;> cases other
  case beforeEach.beforeEach => rfl
  case afterEach.afterEach => rfl
  case beforeEach.afterEach => exact (not_hookedBy_both own hooked hookedToo).elim
  case afterEach.beforeEach => exact (not_hookedBy_both own hookedToo hooked).elim

/-- A label stands at one test at most. -/
theorem countP_testsBelow_le_one [DecidableEq Label] (distinct : (tree.actions.map Prod.fst).Nodup)
    (label : Label) :
    (tree.testsBelow.countP fun test => decide (test.action.1 = label)) ≤ 1 := by
  have tests : ((tree.testsBelow.map Test.action).map Prod.fst).Nodup :=
    distinct.sublist ((map_testsBelow_sublist tree).map Prod.fst)
  have once := List.nodup_iff_count_le_one.mp tests label
  rw [List.map_map, List.count_eq_countP, List.countP_map] at once
  exact once

end

end Group

end TestTree
