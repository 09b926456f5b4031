/-
This file defines the tree of groups that a suite is.

A group holds its tests and its child groups in the order in which they were registered, and at
most one hook for each slot. The root has no name, every other group has one. What a test or a
hook does is left open: the tree is the same for whatever stands in the place of actions.
-/

import TestTree.Outcome

namespace TestTree

variable {Action Other : Type}

/-! ### Hooks -/

/-- The hooks of one group, at most one for each slot. -/
structure Hooks (Action : Type) where
  beforeEach : Option Action
  afterEach : Option Action
deriving DecidableEq

namespace Hooks

/-- No hooks. -/
def empty : Hooks Action := ⟨none, none⟩

/-- The hook in a slot. -/
def get? (hooks : Hooks Action) : HookSlot → Option Action
  | .beforeEach => hooks.beforeEach
  | .afterEach => hooks.afterEach

/-- Put a hook into a slot. The last one set for a slot is the one that counts. -/
def set (hooks : Hooks Action) (slot : HookSlot) (hook : Action) : Hooks Action :=
  match slot with
  | .beforeEach => { hooks with beforeEach := some hook }
  | .afterEach => { hooks with afterEach := some hook }

/-- Replace both hooks by what a computation makes of them, the before-each hook first. -/
def traverse {Effect : Type → Type} [Monad Effect] (visit : Action → Effect Other)
    (hooks : Hooks Action) : Effect (Hooks Other) := do
  let before ← hooks.beforeEach.mapM visit
  let after ← hooks.afterEach.mapM visit
  return ⟨before, after⟩

theorem get?_set (hooks : Hooks Action) (slot asked : HookSlot) (hook : Action) :
    (hooks.set slot hook).get? asked = if asked = slot then some hook else hooks.get? asked := by
  cases slot <;> cases asked <;> rfl

end Hooks

/-! ### Groups -/

/-- A test has a name and an action. -/
structure Test (Action : Type) where
  name : String
  action : Action
deriving DecidableEq

/-- A group of tests. -/
structure Group (Action : Type) where
  name : Option String
  tests : List (Test Action)
  children : List (Group Action)
  hooks : Hooks Action

namespace Group

/-- The root group as a registration finds it: no name, nothing registered. -/
def root : Group Action := ⟨none, [], [], .empty⟩

/-- A named group with nothing registered. -/
def named (name : String) : Group Action := ⟨some name, [], [], .empty⟩

/-- A group without a name is a root. -/
def isRoot (group : Group Action) : Bool := group.name.isNone

/-- Append a test to a group. -/
def addTest (group : Group Action) (test : Test Action) : Group Action :=
  { group with tests := group.tests ++ [test] }

/-- Append a child to a group. -/
def addChild (group child : Group Action) : Group Action :=
  { group with children := group.children ++ [child] }

/-- Set a hook of a group. -/
def setHook (group : Group Action) (slot : HookSlot) (hook : Action) : Group Action :=
  { group with hooks := group.hooks.set slot hook }

mutual

/-- The number of tests in a group and in all groups below it. -/
def testCount : Group Action → Nat
  | ⟨_, tests, children, _⟩ => tests.length + testCountAll children

/-- The number of tests in several groups and in all groups below them. -/
def testCountAll : List (Group Action) → Nat
  | [] => 0
  | group :: rest => group.testCount + testCountAll rest

end

mutual

/-- The groups of a tree with their depths, each before its children. -/
def walk (depth : Nat) : Group Action → List (Nat × Group Action)
  | ⟨name, tests, children, hooks⟩ =>
    (depth, ⟨name, tests, children, hooks⟩) :: walkAll (depth + 1) children

/-- The groups of several trees with their depths, one tree after another. -/
def walkAll (depth : Nat) : List (Group Action) → List (Nat × Group Action)
  | [] => []
  | group :: rest => group.walk depth ++ walkAll depth rest

end

mutual

/-- Replace every action of a group and of the groups below it by what a computation makes of
it: tests, then children, then hooks. -/
def traverse {Effect : Type → Type} [Monad Effect] (visit : Action → Effect Other) :
    Group Action → Effect (Group Other)
  | ⟨name, tests, children, hooks⟩ => do
    let visited ← tests.mapM fun test => return ⟨test.name, ← visit test.action⟩
    let below ← traverseAll visit children
    return ⟨name, visited, below, ← hooks.traverse visit⟩

/-- Replace every action of several groups. -/
def traverseAll {Effect : Type → Type} [Monad Effect] (visit : Action → Effect Other) :
    List (Group Action) → Effect (List (Group Other))
  | [] => return []
  | group :: rest => do
    let visited ← group.traverse visit
    return visited :: (← traverseAll visit rest)

end

end Group

/-! ### Suites -/

/-- A registered tree, ready to be run. -/
structure Suite (Action : Type) where
  root : Group Action

/-- The number of tests of a suite. -/
def Suite.testCount (suite : Suite Action) : Nat := suite.root.testCount

end TestTree
