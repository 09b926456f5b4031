/-
This file says what an execution enters into its books.

While a tree is executed, tests are counted, passed tests are counted, and events are queued, all
of it in passing. Whatever the actions do and whichever boundary is around them, the books that an
execution leaves when it ends with a report are those it found plus what can be read off that
report. The report itself has the outline of the tree and the flags that its outcomes call for.
-/

import TestTree.Proofs.Future.Yield
import TestTree.Proofs.Report.Account
import TestTree.Run.Execution

namespace TestTree

/-- A tally with more outcomes counted and more events queued. -/
def Tally.credit (tally : Tally) (outcomes : List (String × Outcome)) (events : List Event) :
    Tally :=
  ⟨tally.total + outcomes.length,
    tally.passed + outcomes.countP fun entry => entry.2.isPassed, tally.queue ++ events⟩

namespace Tally

theorem credit_nil (tally : Tally) : tally.credit [] [] = tally := by
  simp only [credit, List.length_nil, Nat.add_zero, List.countP_nil, List.append_nil]

theorem credit_credit (tally : Tally) (first second : List (String × Outcome))
    (earlier later : List Event) :
    (tally.credit first earlier).credit second later =
      tally.credit (first ++ second) (earlier ++ later) := by
  simp only [credit, List.length_append, List.countP_append, List.append_assoc, Nat.add_assoc]

end Tally

namespace Execution

open Future ReportNode

variable {State Value : Type}

/-! ### Elementary executions -/

theorem yields_log_iff (record : LogRecord) (done : Unit) (before after : State × Tally) :
    (log record : Execution State Unit).Yields before done after ↔ before = after := by
  show (Except.ok () = Except.ok () ∧ before = after) ↔ _
  simp only [true_and]

theorem yields_recount_iff (change : Tally → Tally) (done : Unit) (before after : State × Tally) :
    (recount change : Execution State Unit).Yields before done after ↔
      (before.1, change before.2) = after :=
  yields_modify_iff _ done before after

/-- A future that is waited for does not touch the tally. -/
theorem yields_await_iff (future : Future State Value) (value : Value)
    (before after : State × Tally) :
    (await future).Yields before value after ↔
      future.Yields before.1 value after.1 ∧ before.2 = after.2 :=
  yields_onFirst_iff future value before.1 after.1 before.2 after.2

theorem yields_within_iff (name : String) (depth : Nat) (execution : Execution State Value)
    (value : Value) (before after : State × Tally) :
    (within name depth execution).Yields before value after ↔
      execution.Yields before value after :=
  yields_instrument_iff name execution value before after

/-! ### Tests -/

theorem tally_perform {boundary : Boundary} {action : Action State} {result : Except Cause Unit}
    {before after : State × Tally} (yields : (perform boundary action).Yields before result after) :
    after.2 = before.2 :=
  ((yields_await_iff _ result before after).mp yields).2.symm

theorem tally_runHook {boundary : Boundary} {hooks : Hooks (Action State)} {slot : HookSlot}
    {failure : Option Failure} {before after : State × Tally}
    (yields : (runHook boundary hooks slot).Yields before failure after) :
    after.2 = before.2 := by
  unfold runHook at yields
  cases hook : hooks.get? slot with
  | none =>
    rw [hook, yields_pure_iff] at yields
    rw [yields.2]
  | some hook' =>
    rw [hook, yields_bind_iff] at yields
    obtain ⟨result, between, performed, ended⟩ := yields
    cases result <;> rw [yields_pure_iff] at ended <;> rw [← ended.2, tally_perform performed]

theorem tally_runAction {boundary : Boundary} {test : Test (Action State)} {status : Status}
    {before after : State × Tally} (failure : Option Failure)
    (yields : (runAction boundary test failure).Yields before status after) :
    after.2 = before.2 := by
  cases failure with
  | some failure =>
    rw [runAction, yields_pure_iff] at yields
    rw [yields.2]
  | none =>
    rw [runAction, yields_bind_iff] at yields
    obtain ⟨result, between, performed, ended⟩ := yields
    cases result <;> rw [yields_pure_iff] at ended <;> rw [← ended.2, tally_perform performed]

theorem tally_logOutcome {test : String} {outcome : Outcome} {before after : State × Tally}
    (yields : (logOutcome test outcome).Yields before () after) : after.2 = before.2 := by
  obtain ⟨status, teardown⟩ := outcome
  cases status <;> cases teardown <;> rw [logOutcome] at yields
  case passed.none => rw [((yields_pure_iff _ _ _ _).mp yields).2]
  all_goals rw [(yields_log_iff _ _ _ _).mp yields]

/-- Running a test leaves the books alone: it is counted and announced by its group. -/
theorem tally_runTest {boundary : Boundary} {hooks : Hooks (Action State)}
    {test : Test (Action State)} {outcome : Outcome} {before after : State × Tally}
    (yields : (runTest boundary hooks test).Yields before outcome after) :
    after.2 = before.2 := by
  simp only [runTest, yields_bind_iff, yields_pure_iff] at yields
  obtain ⟨failure, prepared, hooked, status, tested, performed, teardown, cleared, unhooked,
    _, logged, wasLogged, _, rfl⟩ := yields
  rw [tally_logOutcome wasLogged, tally_runHook unhooked, tally_runAction failure performed,
    tally_runHook hooked]

theorem yields_announce_iff (event : Event) (done : Unit) (before after : State × Tally) :
    (announce event : Execution State Unit).Yields before done after ↔
      (before.1, before.2.credit [] [event]) = after :=
  yields_recount_iff _ done before after

/-- A test is counted, counted once more if it passed, and announced. -/
theorem credit_countedTest {boundary : Boundary} {hooks : Hooks (Action State)} {depth : Nat}
    {test : Test (Action State)} {entry : String × Outcome} {before after : State × Tally}
    (yields : (countedTest boundary hooks depth test).Yields before entry after) :
    after.2 = before.2.credit [entry] (outcomeEvents depth [entry]) ∧ entry.1 = test.name := by
  simp only [countedTest, yields_bind_iff] at yields
  obtain ⟨_, counted, wasCounted, outcome, tested, ran, recounted⟩ := yields
  rw [countTest, yields_recount_iff] at wasCounted
  subst wasCounted
  have kept := tally_runTest ran
  cases passed : outcome.isPassed with
  | true =>
    simp only [passed, if_true, countPassed, yields_bind_iff, yields_recount_iff,
      yields_announce_iff, yields_pure_iff] at recounted
    obtain ⟨_, _, rfl, _, _, rfl, rfl, rfl⟩ := recounted
    simp only [kept, Tally.credit, outcomeEvents, List.length_singleton, List.map_cons,
      List.map_nil, List.countP_singleton, passed, if_true, List.length_nil, List.countP_nil,
      Nat.add_zero, and_self]
  | false =>
    simp only [passed, Bool.false_eq_true, if_false, yields_bind_iff, yields_announce_iff,
      yields_pure_iff] at recounted
    obtain ⟨_, _, rfl, rfl, rfl⟩ := recounted
    simp only [kept, Tally.credit, outcomeEvents, List.length_singleton, List.map_cons,
      List.map_nil, List.countP_singleton, passed, Bool.false_eq_true, if_false,
      List.length_nil, List.countP_nil, Nat.add_zero, and_self]

theorem credit_runTests {boundary : Boundary} {hooks : Hooks (Action State)} {depth : Nat}
    {tests : List (Test (Action State))} {outcomes : List (String × Outcome)}
    {before after : State × Tally}
    (yields : (runTests boundary hooks depth tests).Yields before outcomes after) :
    after.2 = before.2.credit outcomes (outcomeEvents depth outcomes) ∧
      outcomes.map Prod.fst = tests.map Test.name := by
  induction tests generalizing outcomes before with
  | nil =>
    rw [runTests, yields_pure_iff] at yields
    obtain ⟨rfl, rfl⟩ := yields
    exact ⟨before.2.credit_nil.symm, rfl⟩
  | cons test rest inductionHypothesis =>
    simp only [runTests, yields_bind_iff, yields_pure_iff] at yields
    obtain ⟨entry, between, first, entries, ended, others, rfl, rfl⟩ := yields
    obtain ⟨firstCredit, firstName⟩ := credit_countedTest first
    obtain ⟨otherCredit, otherNames⟩ := inductionHypothesis others
    refine ⟨?_, by rw [List.map_cons, List.map_cons, firstName, otherNames]⟩
    rw [otherCredit, firstCredit, Tally.credit_credit]
    rfl

/-! ### Groups -/

theorem credit_announceGroup {name : Option String} {tests depth : Nat}
    {before after : State × Tally}
    (yields : (announceGroup name tests depth).Yields before () after) :
    after.2 = before.2.credit [] (header name depth) := by
  cases name with
  | none =>
    rw [announceGroup, yields_pure_iff] at yields
    rw [yields.2]
    exact after.2.credit_nil.symm
  | some name =>
    simp only [announceGroup, yields_bind_iff, yields_announce_iff] at yields
    obtain ⟨_, logged, wasLogged, rfl⟩ := yields
    rw [← (yields_log_iff _ _ _ _).mp wasLogged]
    rfl

mutual

/-- An execution of a group that ends with a report credits the books with the outcomes and the
events of that report. The report has the outline of the group and is candid. -/
theorem credit_executeGroup {boundary : Boundary} {depth : Nat} :
    (group : Group (Action State)) → {report : ReportNode} → {before after : State × Tally} →
      (executeGroup boundary depth group).Yields before report after →
      after.2 = before.2.credit report.outcomesBelow (report.events depth) ∧
        report.outline = group.outline ∧ report.Candid
  | ⟨name, tests, children, hooks⟩, report, before, after, yields => by
    simp only [executeGroup, yields_within_iff, yields_bind_iff, yields_pure_iff] at yields
    obtain ⟨_, announced, wasAnnounced, outcomes, tested, ran, reports, ended, executed, rfl, rfl⟩ :=
      yields
    obtain ⟨testCredit, names⟩ := credit_runTests ran
    obtain ⟨childCredit, outlines, candid⟩ := credit_executeGroups children executed
    refine ⟨?_, ?_, .of name outcomes reports candid⟩
    · rw [childCredit, testCredit, credit_announceGroup wasAnnounced, Tally.credit_credit,
        Tally.credit_credit, outcomesBelow_mk, events_mk, List.nil_append, List.append_assoc]
    · rw [outline, Group.outline, names, outlines]

theorem credit_executeGroups {boundary : Boundary} {depth : Nat} :
    (groups : List (Group (Action State))) → {reports : List ReportNode} →
      {before after : State × Tally} →
      (executeGroups boundary depth groups).Yields before reports after →
      after.2 = before.2.credit (reports.flatMap outcomesBelow) (reports.flatMap (events depth)) ∧
        outlines reports = Group.outlines groups ∧ ∀ report ∈ reports, report.Candid
  | [], reports, before, after, yields => by
    rw [executeGroups, yields_pure_iff] at yields
    obtain ⟨rfl, rfl⟩ := yields
    exact ⟨before.2.credit_nil.symm, rfl, by simp only [List.not_mem_nil, false_implies, implies_true]⟩
  | group :: rest, reports, before, after, yields => by
    simp only [executeGroups, yields_bind_iff, yields_pure_iff] at yields
    obtain ⟨report, between, first, others, ended, executed, rfl, rfl⟩ := yields
    obtain ⟨firstCredit, firstOutline, firstCandid⟩ := credit_executeGroup group first
    obtain ⟨otherCredit, otherOutlines, otherCandid⟩ := credit_executeGroups rest executed
    refine ⟨?_, ?_, List.forall_mem_cons.mpr ⟨firstCandid, otherCandid⟩⟩
    · rw [otherCredit, firstCredit, Tally.credit_credit, List.flatMap_cons, List.flatMap_cons]
    · rw [outlines, Group.outlines, firstOutline, otherOutlines]

end

end Execution

end TestTree
