/-
This file says when two reports of one tree differ in nothing but certain places.

Two runs of a suite report on the same groups and tests. A leeway names by their labels the tests
whose status may differ and the after-each hooks behind which teardowns may differ. Everything else
is the same in both reports, and so is the flag of every group at or below which no status may
differ. The numbers of passed tests are then no further apart than there are tests whose status may
differ.
-/

import TestTree.Proofs.Report.Account
import TestTree.Proofs.Suite.Places

namespace TestTree

variable {Label Act : Type}

/-- What may differ between two reports of one tree: the statuses of tests with some labels, and
the teardowns behind after-each hooks with some labels. -/
structure Leeway (Label : Type) where
  status : Label → Prop
  teardown : Label → Prop

/-- The outcomes of one test differ only as far as they may. -/
structure Test.Within (leeway : Leeway Label) (hooks : Hooks (Label × Act))
    (test : Test (Label × Act)) (first second : String × Outcome) : Prop where
  first_name : first.1 = test.name
  second_name : second.1 = test.name
  status : ¬ leeway.status test.action.1 → first.2.status = second.2.status
  teardown : (∀ hook ∈ hooks.afterEach, ¬ leeway.teardown hook.1) →
    first.2.teardown = second.2.teardown

/-- The outcomes of the tests of a group differ only as far as they may. -/
def Test.AllWithin (leeway : Leeway Label) (hooks : Hooks (Label × Act)) :
    List (Test (Label × Act)) → List (String × Outcome) → List (String × Outcome) → Prop
  | [], [], [] => True
  | test :: rest, one :: first, other :: second =>
    test.Within leeway hooks one other ∧ AllWithin leeway hooks rest first second
  | _, _, _ => False

mutual

/-- Two reports of a group differ only as far as they may. -/
def Group.Within (leeway : Leeway Label) :
    Group (Label × Act) → ReportNode → ReportNode → Prop
  | ⟨name, tests, children, hooks⟩, first, second =>
    (first.name = name ∧ second.name = name) ∧
      Test.AllWithin leeway hooks tests first.outcomes second.outcomes ∧
      Group.AllWithin leeway children first.children second.children ∧
      ((∀ test ∈ tests ++ Group.testsBelowAll children, ¬ leeway.status test.action.1) →
        first.passed = second.passed)

/-- The reports of several groups differ only as far as they may. -/
def Group.AllWithin (leeway : Leeway Label) :
    List (Group (Label × Act)) → List ReportNode → List ReportNode → Prop
  | [], [], [] => True
  | group :: rest, one :: first, other :: second =>
    group.Within leeway one other ∧ Group.AllWithin leeway rest first second
  | _, _, _ => False

end

section

variable {leeway : Leeway Label} {hooks : Hooks (Label × Act)}

/-! ### Flags -/

theorem Test.Within.isPassed_eq {test : Test (Label × Act)} {first second : String × Outcome}
    (within : test.Within leeway hooks first second) (firm : ¬ leeway.status test.action.1) :
    first.2.isPassed = second.2.isPassed := by
  unfold Outcome.isPassed
  rw [within.status firm]

theorem Test.AllWithin.all_isPassed_eq {tests : List (Test (Label × Act))}
    {first second : List (String × Outcome)} (within : AllWithin leeway hooks tests first second)
    (firm : ∀ test ∈ tests, ¬ leeway.status test.action.1) :
    (first.all fun entry => entry.2.isPassed) = second.all fun entry => entry.2.isPassed := by
  induction tests generalizing first second with
  | nil =>
    match first, second, within with
    | [], [], _ => rfl
  | cons test rest inductionHypothesis =>
    match first, second, within with
    | one :: first, other :: second, ⟨head, tail⟩ =>
      rw [List.all_cons, List.all_cons, head.isPassed_eq (firm test List.mem_cons_self),
        inductionHypothesis tail fun test member => firm test (List.mem_cons_of_mem _ member)]

theorem Group.AllWithin.all_passed_eq {groups : List (Group (Label × Act))}
    {first second : List ReportNode} (within : AllWithin leeway groups first second)
    (firm : ∀ test ∈ testsBelowAll groups, ¬ leeway.status test.action.1) :
    first.all ReportNode.passed = second.all ReportNode.passed := by
  induction groups generalizing first second with
  | nil =>
    match first, second, within with
    | [], [], _ => rfl
  | cons group rest inductionHypothesis =>
    obtain ⟨name, tests, children, hooks⟩ := group
    match first, second, within with
    | one :: first, other :: second, ⟨head, tail⟩ =>
      have here := head.2.2.2 fun test member => firm test (List.mem_append_left _ member)
      rw [List.all_cons, List.all_cons, here,
        inductionHypothesis tail fun test member => firm test (List.mem_append_right _ member)]

/-- Two reports whose flags are computed from what lies below are within the leeway if their
outcomes and their children are. -/
theorem Group.within_of (name : Option String) {tests : List (Test (Label × Act))}
    {children : List (Group (Label × Act))} {first second : List (String × Outcome)}
    {firstReports secondReports : List ReportNode}
    (outcomes : Test.AllWithin leeway hooks tests first second)
    (reports : Group.AllWithin leeway children firstReports secondReports) :
    Group.Within leeway ⟨name, tests, children, hooks⟩ (.of name first firstReports)
      (.of name second secondReports) := by
  refine ⟨⟨rfl, rfl⟩, outcomes, reports, fun firm => ?_⟩
  have own := outcomes.all_isPassed_eq fun test member => firm test (List.mem_append_left _ member)
  have below := reports.all_passed_eq fun test member => firm test (List.mem_append_right _ member)
  show (_ && _) = (_ && _)
  rw [own, below]

/-! ### Counts -/

/-- The numbers of outcomes are the same, and the numbers of passed ones differ by this at most. -/
def CountsWithin (slack : Nat) (first second : List (String × Outcome)) : Prop :=
  first.length = second.length ∧
    (first.countP fun entry => entry.2.isPassed) ≤
      (second.countP fun entry => entry.2.isPassed) + slack ∧
    (second.countP fun entry => entry.2.isPassed) ≤
      (first.countP fun entry => entry.2.isPassed) + slack

theorem CountsWithin.append {slack more : Nat} {first second third fourth : List (String × Outcome)}
    (one : CountsWithin slack first second) (two : CountsWithin more third fourth) :
    CountsWithin (slack + more) (first ++ third) (second ++ fourth) := by
  obtain ⟨length, above, below⟩ := one
  obtain ⟨lengthMore, aboveMore, belowMore⟩ := two
  unfold CountsWithin
  rw [List.length_append, List.length_append, List.countP_append, List.countP_append]
  omega

variable [DecidablePred leeway.status]

theorem Test.AllWithin.counts {tests : List (Test (Label × Act))}
    {first second : List (String × Outcome)} (within : AllWithin leeway hooks tests first second) :
    CountsWithin (tests.countP fun test => decide (leeway.status test.action.1)) first second := by
  induction tests generalizing first second with
  | nil =>
    match first, second, within with
    | [], [], _ => exact ⟨rfl, Nat.le_refl _, Nat.le_refl _⟩
  | cons test rest inductionHypothesis =>
    match first, second, within with
    | one :: first, other :: second, ⟨head, tail⟩ =>
      have single : CountsWithin ([test].countP fun test => decide (leeway.status test.action.1))
          [one] [other] := by
        unfold CountsWithin
        rw [List.countP_singleton, List.countP_singleton, List.countP_singleton]
        by_cases loose : leeway.status test.action.1
        · rw [if_pos (decide_eq_true loose)]
          refine ⟨rfl, ?_, ?_⟩ <;> split <;> omega
        · rw [head.isPassed_eq loose]
          exact ⟨rfl, Nat.le_add_right _ _, Nat.le_add_right _ _⟩
      have both := single.append (inductionHypothesis tail)
      rwa [← List.countP_append] at both

mutual

/-- The counts of two reports are as far apart as there are tests whose status may differ. -/
theorem Group.Within.counts :
    (group : Group (Label × Act)) → {first second : ReportNode} →
      group.Within leeway first second →
      CountsWithin (group.testsBelow.countP fun test => decide (leeway.status test.action.1))
        first.outcomesBelow second.outcomesBelow
  | ⟨_, tests, children, hooks⟩, ⟨_, first, firstReports, _⟩, ⟨_, second, secondReports, _⟩,
      ⟨_, outcomes, reports, _⟩ => by
    rw [Group.testsBelow, List.countP_append, ReportNode.outcomesBelow_mk,
      ReportNode.outcomesBelow_mk]
    exact outcomes.counts.append (Group.AllWithin.counts children reports)

theorem Group.AllWithin.counts :
    (groups : List (Group (Label × Act))) → {first second : List ReportNode} →
      Group.AllWithin leeway groups first second →
      CountsWithin
        ((Group.testsBelowAll groups).countP fun test => decide (leeway.status test.action.1))
        (first.flatMap ReportNode.outcomesBelow) (second.flatMap ReportNode.outcomesBelow)
  | [], [], [], _ => ⟨rfl, Nat.le_refl _, Nat.le_refl _⟩
  | group :: rest, one :: first, other :: second, ⟨head, tail⟩ => by
    rw [Group.testsBelowAll, List.countP_append, List.flatMap_cons, List.flatMap_cons]
    exact (Group.Within.counts group head).append (Group.AllWithin.counts rest tail)

end

/-- If no status may differ, as many tests passed. -/
theorem Group.Within.passedCount_eq {group : Group (Label × Act)} {first second : ReportNode}
    (within : group.Within leeway first second)
    (firm : ∀ test ∈ group.testsBelow, ¬ leeway.status test.action.1) :
    first.passedCount = second.passedCount := by
  obtain ⟨_, above, below⟩ := Group.Within.counts group within
  have none : (group.testsBelow.countP fun test => decide (leeway.status test.action.1)) = 0 :=
    List.countP_eq_zero.mpr fun test member flips => firm test member (of_decide_eq_true flips)
  rw [none] at above below
  exact Nat.le_antisymm above below

end

end TestTree
