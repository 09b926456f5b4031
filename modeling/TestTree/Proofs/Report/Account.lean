/-
This file says what can be read off a report.

The report of a group is a tree, and everything else that a run tells about itself is a walk of
that tree: the outcomes at or below a group are those of the groups of its walk, and so are the
events. A flag of a group is a summary of what lies below it. A report in which every flag is
the right one is called candid, and a candid report is determined by everything but its flags.
-/

import TestTree.Report
import TestTree.Suite

namespace TestTree

namespace ReportNode

/-! ### Walks of trees -/

theorem walkAll_eq_flatMap (depth : Nat) (reports : List ReportNode) :
    walkAll depth reports = reports.flatMap (walk depth) := by
  induction reports with
  | nil => rfl
  | cons report rest inductionHypothesis =>
    rw [walkAll, inductionHypothesis, List.flatMap_cons]

theorem walk_mk (depth : Nat) (name : Option String) (outcomes : List (String × Outcome))
    (children : List ReportNode) (passed : Bool) :
    walk depth ⟨name, outcomes, children, passed⟩ =
      (depth, ⟨name, outcomes, children, passed⟩) :: children.flatMap (walk (depth + 1)) := by
  rw [walk, walkAll_eq_flatMap]

mutual

/-- What is collected on a walk without a look at the depths does not depend on them. -/
theorem flatMap_walk_depth {Value : Type} (visit : ReportNode → List Value) (first second : Nat) :
    (report : ReportNode) → ((report.walk first).flatMap fun entry => visit entry.2) =
      (report.walk second).flatMap fun entry => visit entry.2
  | ⟨name, outcomes, children, passed⟩ => by
    rw [walk, walk, List.flatMap_cons, List.flatMap_cons,
      flatMap_walkAll_depth visit (first + 1) (second + 1) children]

theorem flatMap_walkAll_depth {Value : Type} (visit : ReportNode → List Value)
    (first second : Nat) :
    (reports : List ReportNode) → ((walkAll first reports).flatMap fun entry => visit entry.2) =
      (walkAll second reports).flatMap fun entry => visit entry.2
  | [] => rfl
  | report :: rest => by
    rw [walkAll, walkAll, List.flatMap_append, List.flatMap_append,
      flatMap_walk_depth visit first second report,
      flatMap_walkAll_depth visit first second rest]

end

/-! ### Outcomes -/

/-- The outcomes in a group and in all groups below it. -/
def outcomesBelow (report : ReportNode) : List (String × Outcome) :=
  (report.walk 0).flatMap fun entry => entry.2.outcomes

theorem outcomesBelow_mk (name : Option String) (outcomes : List (String × Outcome))
    (children : List ReportNode) (passed : Bool) :
    outcomesBelow ⟨name, outcomes, children, passed⟩ =
      outcomes ++ children.flatMap outcomesBelow := by
  unfold outcomesBelow
  rw [walk_mk, List.flatMap_cons, List.flatMap_assoc]
  simp only [flatMap_walk_depth ReportNode.outcomes (0 + 1) 0]

/-- The number of tests in a group and below it that passed. -/
def passedCount (report : ReportNode) : Nat :=
  report.outcomesBelow.countP fun entry => entry.2.isPassed

/-! ### Events -/

/-- The event that announces a group. A group without a name is not announced. -/
def header (name : Option String) (depth : Nat) : List Event :=
  match name with
  | none => []
  | some name => [.groupStart name depth]

/-- The events of the tests of a group, which are shown at a depth. -/
def outcomeEvents (depth : Nat) (outcomes : List (String × Outcome)) : List Event :=
  outcomes.map fun entry => .testOutcome entry.1 depth entry.2

/-- The events of one group without those of its children: its header, and then its outcomes one
level deeper. -/
def ownEvents (depth : Nat) (report : ReportNode) : List Event :=
  header report.name depth ++ outcomeEvents (depth + 1) report.outcomes

/-- The events of a group and of all groups below it, in the order of the walk. -/
def events (depth : Nat) (report : ReportNode) : List Event :=
  (report.walk depth).flatMap fun entry => entry.2.ownEvents entry.1

theorem events_mk (depth : Nat) (name : Option String) (outcomes : List (String × Outcome))
    (children : List ReportNode) (passed : Bool) :
    events depth ⟨name, outcomes, children, passed⟩ =
      header name depth ++ outcomeEvents (depth + 1) outcomes ++
        children.flatMap (events (depth + 1)) := by
  unfold events
  rw [walk_mk, List.flatMap_cons, List.flatMap_assoc]
  rfl

/-- The counts of a run with this report of its root. -/
def summary (root : ReportNode) : Summary :=
  ⟨root.outcomesBelow.length, root.passedCount, root.outcomesBelow.length - root.passedCount, 0⟩

/-- All events of a run with this report of its root: the start with the number of tests, the
walk, and the end with the counts. -/
def story (root : ReportNode) : List Event :=
  .runStart root.outcomesBelow.length :: root.events 0 ++ [.runOutcomes root.summary]

/-! ### Flags -/

/-- The report of a group with the flag that its outcomes and its children call for. -/
def of (name : Option String) (outcomes : List (String × Outcome)) (children : List ReportNode) :
    ReportNode :=
  ⟨name, outcomes, children,
    (outcomes.all fun entry => entry.2.isPassed) && children.all passed⟩

/-- Every flag in the tree is the one that is called for. -/
inductive Candid : ReportNode → Prop where
  | of (name : Option String) (outcomes : List (String × Outcome)) (children : List ReportNode)
      (below : ∀ child ∈ children, child.Candid) : Candid (.of name outcomes children)

/-- The flag of a candid report says whether every test at or below the group passed. -/
theorem Candid.passed_eq {report : ReportNode} (candid : report.Candid) :
    report.passed = report.outcomesBelow.all fun entry => entry.2.isPassed := by
  induction candid with
  | of name outcomes children below inductionHypothesis =>
    show ((outcomes.all fun entry => entry.2.isPassed) && children.all passed) = _
    have flags : children.all passed =
        children.all fun child => child.outcomesBelow.all fun entry => entry.2.isPassed := by
      rw [Bool.eq_iff_iff, List.all_eq_true, List.all_eq_true]
      refine forall_congr' fun child => forall_congr' fun member => ?_
      rw [inductionHypothesis child member]
    rw [flags, ReportNode.of, outcomesBelow_mk, List.all_append, List.all_flatMap]

/-- Every group of a candid report has a candid report. -/
theorem Candid.of_mem_walk {report : ReportNode} (candid : report.Candid) {depth : Nat}
    {entry : Nat × ReportNode} (member : entry ∈ report.walk depth) : entry.2.Candid := by
  induction candid generalizing depth with
  | of name outcomes children below inductionHypothesis =>
    rw [ReportNode.of, walk_mk, List.mem_cons, List.mem_flatMap] at member
    rcases member with rfl | ⟨child, childMember, member⟩
    · exact .of name outcomes children below
    · exact inductionHypothesis child childMember member

end ReportNode

/-! ### Outlines -/

/-- What a tree of groups and a tree of reports can have in common: names and order. -/
structure Outline where
  name : Option String
  tests : List String
  children : List Outline

mutual

/-- The names in a tree of groups. -/
def Group.outline {Action : Type} : Group Action → Outline
  | ⟨name, tests, children, _⟩ => ⟨name, tests.map Test.name, Group.outlines children⟩

/-- The names in several trees of groups. -/
def Group.outlines {Action : Type} : List (Group Action) → List Outline
  | [] => []
  | group :: rest => group.outline :: Group.outlines rest

end

mutual

/-- The names in a report. -/
def ReportNode.outline : ReportNode → Outline
  | ⟨name, outcomes, children, _⟩ => ⟨name, outcomes.map Prod.fst, ReportNode.outlines children⟩

/-- The names in several reports. -/
def ReportNode.outlines : List ReportNode → List Outline
  | [] => []
  | report :: rest => report.outline :: ReportNode.outlines rest

end

namespace ReportNode

mutual

/-- A report with the outline of a tree has as many outcomes as the tree has tests. -/
theorem length_outcomesBelow {Action : Type} :
    (group : Group Action) → (report : ReportNode) → report.outline = group.outline →
      report.outcomesBelow.length = group.testCount
  | ⟨_, tests, groups, _⟩, ⟨_, outcomes, children, _⟩, same => by
    rw [outline, Group.outline, Outline.mk.injEq] at same
    obtain ⟨_, names, below⟩ := same
    have own : outcomes.length = tests.length := by
      rw [← List.length_map Prod.fst, names, List.length_map]
    rw [outcomesBelow_mk, List.length_append, own, Group.testCount,
      length_flatMap_outcomesBelow groups children below]

theorem length_flatMap_outcomesBelow {Action : Type} :
    (groups : List (Group Action)) → (reports : List ReportNode) →
      outlines reports = Group.outlines groups →
      (reports.flatMap outcomesBelow).length = Group.testCountAll groups
  | [], [], _ => rfl
  | group :: groups, report :: reports, same => by
    rw [outlines, Group.outlines, List.cons.injEq] at same
    rw [List.flatMap_cons, List.length_append, Group.testCountAll,
      length_outcomesBelow group report same.1,
      length_flatMap_outcomesBelow groups reports same.2]

end

end ReportNode

end TestTree
