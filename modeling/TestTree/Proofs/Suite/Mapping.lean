/-
This file is about the places of a tree and the actions in them.

A tree says where actions stand and leaves open what they are. Changing every action keeps the
shape of the tree, its names, and the places of its hooks. Replacing every action by what a
computation makes of it puts nothing into the tree but what the computation can make of an action
that stood there before.
-/

import TestTree.Proofs.Report.Account

namespace TestTree

variable {Act Other : Type}

/-! ### The actions of a tree -/

/-- The hooks of a group, as far as there are any. -/
def Hooks.actions (hooks : Hooks Act) : List Act :=
  hooks.beforeEach.toList ++ hooks.afterEach.toList

mutual

/-- The actions that stand anywhere in a tree. -/
def Group.actions : Group Act → List Act
  | ⟨_, tests, children, hooks⟩ =>
    hooks.actions ++ tests.map Test.action ++ Group.actionsBelow children

/-- The actions that stand anywhere in several trees. -/
def Group.actionsBelow : List (Group Act) → List Act
  | [] => []
  | group :: rest => group.actions ++ Group.actionsBelow rest

end

theorem Hooks.mem_actions {hooks : Hooks Act} {slot : HookSlot} {action : Act}
    (found : hooks.get? slot = some action) : action ∈ hooks.actions := by
  cases slot with
  | beforeEach =>
    exact List.mem_append_left _ (Option.mem_toList.mpr found)
  | afterEach =>
    exact List.mem_append_right _ (Option.mem_toList.mpr found)

/-! ### Other actions -/

/-- Hooks with other actions in the same slots. -/
def Hooks.map (change : Act → Other) (hooks : Hooks Act) : Hooks Other :=
  ⟨hooks.beforeEach.map change, hooks.afterEach.map change⟩

theorem Hooks.get?_map (change : Act → Other) (hooks : Hooks Act) (slot : HookSlot) :
    (hooks.map change).get? slot = (hooks.get? slot).map change := by
  cases slot <;> rfl

/-- A test with another action. -/
def Test.map (change : Act → Other) (test : Test Act) : Test Other :=
  ⟨test.name, change test.action⟩

mutual

/-- A tree with other actions in the same places. -/
def Group.map (change : Act → Other) : Group Act → Group Other
  | ⟨name, tests, children, hooks⟩ =>
    ⟨name, tests.map (Test.map change), Group.mapAll change children, hooks.map change⟩

/-- Trees with other actions in the same places. -/
def Group.mapAll (change : Act → Other) : List (Group Act) → List (Group Other)
  | [] => []
  | group :: rest => group.map change :: Group.mapAll change rest

end

theorem Hooks.map_id (hooks : Hooks Act) : hooks.map id = hooks := by
  obtain ⟨before, after⟩ := hooks
  cases before <;> cases after <;> rfl

mutual

theorem Group.map_id : (group : Group Act) → group.map id = group
  | ⟨name, tests, children, hooks⟩ => by
    have kept : tests.map (Test.map id) = tests := List.map_id tests
    rw [Group.map, kept, Group.mapAll_id children, hooks.map_id]

theorem Group.mapAll_id : (groups : List (Group Act)) → Group.mapAll id groups = groups
  | [] => rfl
  | group :: rest => by rw [Group.mapAll, Group.map_id group, Group.mapAll_id rest]

end

/-- A suite with other actions in the same places. -/
def Suite.map (change : Act → Other) (suite : Suite Act) : Suite Other :=
  ⟨suite.root.map change⟩

mutual

theorem Group.testCount_map (change : Act → Other) :
    (group : Group Act) → (group.map change).testCount = group.testCount
  | ⟨_, tests, children, _⟩ => by
    rw [Group.map, Group.testCount, Group.testCount, List.length_map,
      Group.testCountAll_mapAll change children]

theorem Group.testCountAll_mapAll (change : Act → Other) :
    (groups : List (Group Act)) → Group.testCountAll (Group.mapAll change groups) =
      Group.testCountAll groups
  | [] => rfl
  | group :: rest => by
    rw [Group.mapAll, Group.testCountAll, Group.testCountAll, Group.testCount_map change group,
      Group.testCountAll_mapAll change rest]

end

/-! ### Numbered actions -/

section

variable {Number : Type}

theorem exists_of_mem_mapM {visit : Act → StateM Number Other} {list : List Act} {number : Number}
    {made : Other} (member : made ∈ ((list.mapM visit).run number).1) :
    ∃ old ∈ list, ∃ number, made = ((visit old).run number).1 := by
  induction list generalizing number with
  | nil => exact absurd member List.not_mem_nil
  | cons first rest inductionHypothesis =>
    rw [List.mapM_cons] at member
    rcases List.mem_cons.mp member with rfl | member
    · exact ⟨first, List.mem_cons_self, number, rfl⟩
    · obtain ⟨old, present, reached⟩ := inductionHypothesis member
      exact ⟨old, List.mem_cons_of_mem _ present, reached⟩

theorem Hooks.exists_of_mem_traverse {visit : Act → StateM Number Other} {hooks : Hooks Act}
    {number : Number} {made : Other}
    (member : made ∈ ((hooks.traverse visit).run number).1.actions) :
    ∃ old ∈ hooks.actions, ∃ number, made = ((visit old).run number).1 := by
  obtain ⟨before, after⟩ := hooks
  rcases List.mem_append.mp member with first | second
  · cases before with
    | none => exact absurd first List.not_mem_nil
    | some before =>
      exact ⟨before, List.mem_cons_self, number, List.mem_singleton.mp first⟩
  · cases after with
    | none => exact absurd second List.not_mem_nil
    | some after =>
      exact ⟨after, List.mem_append_right _ List.mem_cons_self, _, List.mem_singleton.mp second⟩

mutual

theorem Group.exists_of_mem_traverse {visit : Act → StateM Number Other} {made : Other} :
    (group : Group Act) → (number : Number) →
      made ∈ ((group.traverse visit).run number).1.actions →
        ∃ old ∈ group.actions, ∃ number, made = ((visit old).run number).1
  | ⟨name, tests, children, hooks⟩, number, member => by
    rw [Group.traverse] at member
    rcases List.mem_append.mp member with member | below
    · rcases List.mem_append.mp member with hook | test
      · obtain ⟨old, present, reached⟩ := Hooks.exists_of_mem_traverse hook
        exact ⟨old, List.mem_append_left _ (List.mem_append_left _ present), reached⟩
      · obtain ⟨visited, visitedMember, rfl⟩ := List.mem_map.mp test
        obtain ⟨old, present, position, rfl⟩ := exists_of_mem_mapM visitedMember
        exact ⟨old.action, List.mem_append_left _ (List.mem_append_right _
          (List.mem_map_of_mem present)), position, rfl⟩
    · obtain ⟨old, present, reached⟩ := Group.exists_of_mem_traverseAll children _ below
      exact ⟨old, List.mem_append_right _ present, reached⟩

theorem Group.exists_of_mem_traverseAll {visit : Act → StateM Number Other} {made : Other} :
    (groups : List (Group Act)) → (number : Number) →
      made ∈ Group.actionsBelow ((Group.traverseAll visit groups).run number).1 →
        ∃ old ∈ Group.actionsBelow groups, ∃ number, made = ((visit old).run number).1
  | [], _, member => absurd member List.not_mem_nil
  | group :: rest, number, member => by
    rw [Group.traverseAll] at member
    rcases List.mem_append.mp member with first | others
    · obtain ⟨old, present, reached⟩ := Group.exists_of_mem_traverse group number first
      exact ⟨old, List.mem_append_left _ present, reached⟩
    · obtain ⟨old, present, reached⟩ := Group.exists_of_mem_traverseAll rest _ others
      exact ⟨old, List.mem_append_right _ present, reached⟩

end

end

end TestTree
