/-
This file defines the course that a run is expected to take.

The plain course of a tree says what is called, and in which order, without futures, boundaries,
spans, counters and events: each group calls, for each of its own tests in order, its own
before-each hook, the test unless that hook failed, and its own after-each hook in every case, and
then its children follow one after another. A call is a black box in it: it takes a state to a
state and answers with success or a cause of failure.
-/

import TestTree.Proofs.Suite.Mapping

namespace TestTree

/-! ### The plain course -/

namespace Course

variable {Act State : Type} (call : Act → State → State × Except Cause Unit)

/-- The cause of a call that failed. -/
def cause? : Except Cause Unit → Option Cause
  | .ok () => none
  | .error cause => some cause

/-- Call a hook if there is one. The result is the cause of its failure. -/
def hook : Option Act → State → State × Option Cause
  | none, state => (state, none)
  | some hook, state => ((call hook state).1, cause? (call hook state).2)

/-- Call a test if nothing failed before it. -/
def body (test : Test Act) : Option Cause → State → State × Status
  | some cause, state => (state, .failed ⟨.beforeEach, cause⟩)
  | none, state => ((call test.action state).1,
      .ofFailure? ((cause? (call test.action state).2).map fun cause => ⟨.test, cause⟩))

/-- A test between the hooks of its group. The after-each hook is called in every case, and its
failure is kept beside the status. -/
def test (hooks : Hooks Act) (test : Test Act) (state : State) : State × Outcome :=
  let (prepared, before) := hook call hooks.beforeEach state
  let (tested, status) := body call test before prepared
  let (cleared, after) := hook call hooks.afterEach tested
  (cleared, ⟨status, after.map fun cause => ⟨.afterEach, cause⟩⟩)

/-- The tests of a group in order. -/
def tests (hooks : Hooks Act) : List (Test Act) → State → State × List (String × Outcome)
  | [], state => (state, [])
  | first :: rest, state =>
    let (between, outcome) := test call hooks first state
    let (after, outcomes) := tests hooks rest between
    (after, (first.name, outcome) :: outcomes)

mutual

/-- A group: its own tests, and then its children. -/
def group : Group Act → State → State × ReportNode
  | ⟨name, tests, children, hooks⟩, state =>
    let (between, outcomes) := Course.tests call hooks tests state
    let (after, reports) := groups children between
    (after, .of name outcomes reports)

/-- Groups one after another. -/
def groups : List (Group Act) → State → State × List ReportNode
  | [], state => (state, [])
  | first :: rest, state =>
    let (between, report) := group first state
    let (after, reports) := groups rest between
    (after, report :: reports)

end

end Course

namespace Course

variable {Act Other State Larger : Type}

section Naturality

/-! The course of a changed tree on a larger state follows the course of the tree, if each call
does. The embedding says which larger state stands for which state. -/

variable {call : Act → State → State × Except Cause Unit}
  {larger : Other → Larger → Larger × Except Cause Unit} (change : Act → Other)
  (embed : State → Larger)

section

variable (follows : ∀ action state,
  larger (change action) (embed state) = (call action state).map embed id)

include follows

theorem hook_map (slot : Option Act) (state : State) :
    hook larger (slot.map change) (embed state) = (hook call slot state).map embed id := by
  cases slot with
  | none => rfl
  | some action => simp only [Option.map_some, hook, follows, Prod.map, id]

theorem body_map (test : Test Act) (before : Option Cause) (state : State) :
    body larger (test.map change) before (embed state) =
      (body call test before state).map embed id := by
  cases before with
  | some cause => rfl
  | none => simp only [body, Test.map, follows, Prod.map, id]

theorem test_map (hooks : Hooks Act) (test : Test Act) (state : State) :
    Course.test larger (hooks.map change) (test.map change) (embed state) =
      (Course.test call hooks test state).map embed id := by
  simp only [Course.test, Hooks.map, hook_map change embed follows, body_map change embed follows,
    Prod.map, id]

theorem tests_map (hooks : Hooks Act) (list : List (Test Act)) (state : State) :
    tests larger (hooks.map change) (list.map (Test.map change)) (embed state) =
      (tests call hooks list state).map embed id := by
  induction list generalizing state with
  | nil => rfl
  | cons first rest inductionHypothesis =>
    simp only [List.map_cons, tests, test_map change embed follows, Prod.map, id,
      inductionHypothesis]
    rfl

end

mutual

theorem group_map
    (follows : ∀ action state,
      larger (change action) (embed state) = (call action state).map embed id) :
    (tree : Group Act) → (state : State) →
      group larger (tree.map change) (embed state) = (group call tree state).map embed id
  | ⟨name, list, children, hooks⟩, state => by
    simp only [Group.map, group, tests_map change embed follows, Prod.map, id,
      groups_map follows children]

theorem groups_map
    (follows : ∀ action state,
      larger (change action) (embed state) = (call action state).map embed id) :
    (trees : List (Group Act)) → (state : State) →
      groups larger (Group.mapAll change trees) (embed state) =
        (groups call trees state).map embed id
  | [], _ => rfl
  | first :: rest, state => by
    simp only [Group.mapAll, groups, group_map follows first, Prod.map, id,
      groups_map follows rest]

end

end Naturality

end Course

end TestTree
