/-
This file proves that all accounts of one run agree.

How many tests there are and how many of them passed is told five times over: by the suite before
anything runs, by the two counters of the execution, by the flags of the groups, by the events,
and by the tree of outcomes. The counters and the flags are kept along the way and the last
summary is computed from the counters, so nothing but the order of the entries makes them fit.
-/

import TestTree.Proofs.Run.Conclusion

namespace TestTree

namespace Runner

open Future

variable {State Kept Error : Type}

/-- Every account of a run agrees with the tree of outcomes in its report. -/
structure Consistent (suite : Suite (Action State)) (told : List Event) (report : Report Error) :
    Prop where
  /-- The run counted the tests that are registered. -/
  total_eq_testCount : report.total = suite.testCount
  /-- There is one outcome for each test that was counted. -/
  total_eq_outcomes : report.total = report.root.outcomesBelow.length
  /-- Exactly the outcomes with a passing status were counted as passed. -/
  passed_eq_outcomes : report.passed =
    report.root.outcomesBelow.countP fun entry => decide (entry.2.status = .passed)
  /-- The passed tests are among the counted ones, so the failed ones can be counted too. -/
  passed_le_total : report.passed ≤ report.total
  checkedFailed_eq : report.checkedFailed = .ok (report.total - report.passed)
  /-- The first event has the number of tests, the last one the three counts, and between them
  there is one event for each outcome, beside those that announce groups. -/
  events_eq : ∃ inner, told = .runStart report.total :: inner ++
      [.runOutcomes ⟨report.total, report.passed, report.total - report.passed, 0⟩] ∧
    (∀ event ∈ inner, event.kind = .groupStart ∨ event.kind = .testOutcome) ∧
    (inner.countP fun event => decide (event.kind = .testOutcome)) = report.total
  /-- The flag of a group holds if and only if everything at or below the group passed. -/
  flag_iff : ∀ entry ∈ report.root.walk 0,
    (entry.2.passed = true ↔ ∀ outcome ∈ entry.2.outcomesBelow, outcome.2.status = .passed)
  /-- Success, the exit code and the flag of the root are the same verdict. -/
  isSuccess_iff : report.isSuccess = true ↔ report.root.passed = true
  exitCode_iff : report.exitCode = 0 ↔ report.root.passed = true

/-! ### Counts and flags of a tree -/

theorem isPassed_iff (outcome : Outcome) : outcome.isPassed = true ↔ outcome.status = .passed := by
  obtain ⟨status, teardown⟩ := outcome
  cases status <;> simp only [Outcome.isPassed, Status.isPassed, reduceCtorEq]

theorem isPassed_eq_decide (outcome : Outcome) :
    outcome.isPassed = decide (outcome.status = .passed) := by
  rw [Bool.eq_iff_iff, isPassed_iff, decide_eq_true_iff]

theorem passedCount_le (root : ReportNode) : root.passedCount ≤ root.outcomesBelow.length :=
  List.countP_le_length

/-- Nothing failed if and only if every outcome passed. -/
theorem sub_passedCount_eq_zero_iff (root : ReportNode) :
    root.outcomesBelow.length - root.passedCount = 0 ↔
      ∀ entry ∈ root.outcomesBelow, entry.2.isPassed = true := by
  have bound := passedCount_le root
  rw [← List.countP_eq_length]
  show _ ↔ root.passedCount = root.outcomesBelow.length
  omega

/-- The events of a walk announce groups and outcomes, one for each outcome. -/
theorem countP_events (root : ReportNode) (depth : Nat) :
    (∀ event ∈ root.events depth, event.kind = .groupStart ∨ event.kind = .testOutcome) ∧
      ((root.events depth).countP fun event => decide (event.kind = .testOutcome)) =
        root.outcomesBelow.length := by
  unfold ReportNode.outcomesBelow
  rw [ReportNode.flatMap_walk_depth ReportNode.outcomes 0 depth root]
  unfold ReportNode.events
  induction root.walk depth with
  | nil => exact ⟨fun event member => absurd member List.not_mem_nil, rfl⟩
  | cons entry rest inductionHypothesis =>
    obtain ⟨kinds, count⟩ := inductionHypothesis
    rw [List.flatMap_cons, List.flatMap_cons, List.countP_append, List.length_append, count]
    obtain ⟨level, ⟨name, outcomes, children, passed⟩⟩ := entry
    refine ⟨fun event member => ?_, ?_⟩
    · rw [List.mem_append, ReportNode.ownEvents, List.mem_append, ReportNode.outcomeEvents,
        List.mem_map] at member
      rcases member with (announced | ⟨outcome, _, rfl⟩) | member
      · cases name with
        | none => exact absurd announced List.not_mem_nil
        | some name =>
          rw [List.mem_singleton.mp announced]
          exact Or.inl rfl
      · exact Or.inr rfl
      · exact kinds event member
    · rw [Nat.add_right_cancel_iff, ReportNode.ownEvents, List.countP_append,
        ReportNode.outcomeEvents, List.countP_map]
      have headers : ((ReportNode.header name level).countP fun event =>
          decide (event.kind = .testOutcome)) = 0 := by
        cases name <;> rfl
      rw [headers, Nat.zero_add]
      exact List.countP_eq_length.mpr fun outcome _ => rfl

/-! ### All accounts of a run -/

/-- Whatever its actions do, under either boundary and with any formatter, a run that returns a
report has told the same numbers everywhere. -/
theorem counts_agree (runner : Runner State Kept Error) (state : State) (report : Report Error)
    (returned : (runner.run.complete state).result = .ok report) :
    Consistent runner.suite (runner.delivered state) report := by
  have yields : runner.run.Yields state report _ := Yields.of_result returned
  have told := delivered_eq_story yields
  obtain ⟨root, tally, executed, _, rfl⟩ := (yields_run_root_iff runner _ state _).mp yields
  obtain ⟨_, outline, candid⟩ := Execution.credit_executeGroup runner.suite.root executed
  obtain ⟨kinds, count⟩ := countP_events root 0
  have flag : root.passed = true ↔ ∀ entry ∈ root.outcomesBelow, entry.2.isPassed = true := by
    rw [candid.passed_eq, List.all_eq_true]
  have success : (runner.reportOf root).isSuccess = true ↔ root.passed = true := by
    rw [flag, ← sub_passedCount_eq_zero_iff, Report.isSuccess, decide_eq_true_iff]
    rfl
  exact {
    total_eq_testCount := ReportNode.length_outcomesBelow runner.suite.root root outline
    total_eq_outcomes := rfl
    passed_eq_outcomes := by
      show root.outcomesBelow.countP _ = root.outcomesBelow.countP _
      simp only [isPassed_eq_decide]
    passed_le_total := passedCount_le root
    checkedFailed_eq := if_pos (passedCount_le root)
    events_eq := ⟨root.events 0, told, kinds, count⟩
    flag_iff := by
      intro entry member
      rw [(candid.of_mem_walk member).passed_eq, List.all_eq_true]
      simp only [isPassed_iff]
    isSuccess_iff := success
    exitCode_iff := by
      show _ ↔ root.passed = true
      rw [← success, Report.exitCode]
      cases (runner.reportOf root).isSuccess <;> simp only [Bool.false_eq_true, if_true, if_false,
        Nat.one_ne_zero] }

/-- A run with a test that passes although its after-each hook fails, and a group below whose
test panics. -/
def mixed : Runner Nat Unit Empty :=
  ⟨⟨⟨none, [⟨"kept", .blocking (pure .success)⟩],
      [⟨some "inner", [⟨"lost", .asynchronous (Immediate.panic (.raised (.text "gone")))⟩], [],
        .empty⟩],
      ⟨none, some (.blocking (pure (.error "late")))⟩⟩⟩,
    .standard, .silent, ()⟩

/-- The report of the mixed run. -/
def mixedReport : Report Empty :=
  ⟨⟨none, [("kept", ⟨.passed, some ⟨.afterEach, .error "late"⟩⟩)],
      [⟨some "inner", [("lost", ⟨.failed ⟨.test, .panicked "gone"⟩, none⟩)], [], false⟩], false⟩,
    2, 1, []⟩

theorem counts_agree_mixed :
    (mixed.run.complete 0).result = .ok mixedReport ∧
      Consistent mixed.suite (mixed.delivered 0) mixedReport :=
  ⟨rfl, counts_agree mixed 0 mixedReport rfl⟩

end Runner

end TestTree
