/-
This file proves what makes a run suspend.

Polled by hand, a run returns without a report exactly when a call that it awaits does: each time a
call suspends, the run returns at once, and when the run is polled again, the same call goes on with
the state that it finds. So the number of polls of a run is one more than its calls suspend, however
many groups, hooks and events there are, and whether it returns its report or lets a panic out.

This is told by a second run of the same suite, in which every action reports on itself. Any action
can be watched. An action that awaits runs can also leave it to the actions of these runs to report,
because a run of reporting actions reports on their calls.
-/

import TestTree.Proofs.Future.Reporting
import TestTree.Proofs.Run.Call
import TestTree.Proofs.Run.Congruence
import TestTree.Run.Runner

namespace TestTree

variable {Label State Value Other Part Kept Error : Type}

/-! ### Parts that are collected -/

namespace Future

/-- A sequence whose last part of the state is collected. -/
theorem collect_bind (future : Future (State × Part) Value)
    (next : Value → Future (State × Part) Other) (own : Part) :
    (future.bind next).collect own = (future.collect own).bind fun ended =>
      match ended.1 with
      | .ok value => (next value).collect ended.2
      | .error payload => .ready (.error payload, ended.2) := by
  induction future generalizing own with
  | ready value => rfl
  | unwind payload => rfl
  | pending rest inductionHypothesis => exact congrArg pending (inductionHypothesis own)
  | send signal rest inductionHypothesis => exact congrArg (send signal) (inductionHypothesis own)
  | read step inductionHypothesis =>
    exact congrArg read (funext fun state => inductionHypothesis (state, own) own)
  | write both rest inductionHypothesis =>
    exact congrArg (write both.1) (inductionHypothesis both.2)

theorem collect_withinSpan (name : String) (future : Future (State × Part) Value) (own : Part) :
    (future.withinSpan name).collect own = (future.collect own).withinSpan name := by
  induction future generalizing own with
  | ready value => rfl
  | unwind payload => rfl
  | pending rest inductionHypothesis =>
    exact congrArg (fun rest => send .spanLeft (.pending (.send (.spanEntered name) rest)))
      (inductionHypothesis own)
  | send signal rest inductionHypothesis => exact congrArg (send signal) (inductionHypothesis own)
  | read step inductionHypothesis =>
    exact congrArg read (funext fun state => inductionHypothesis (state, own) own)
  | write both rest inductionHypothesis =>
    exact congrArg (write both.1) (inductionHypothesis both.2)

end Future

/-! ### Executions -/

namespace Execution

/-- Whatever was counted and queued before, the second execution reports on the calls in the first
one. -/
def Reports (plain : Execution State Value)
    (reporting : Execution (State × List (Glimpse Label State)) Value) : Prop :=
  ∀ tally, (Future.collect tally plain).Reports (Future.collect tally reporting)

theorem Reports.bind {plain : Execution State Value}
    {reporting : Execution (State × List (Glimpse Label State)) Value}
    {next : Value → Execution State Other}
    {further : Value → Execution (State × List (Glimpse Label State)) Other}
    (first : Reports plain reporting) (second : ∀ value, Reports (next value) (further value)) :
    Reports (plain >>= next) (reporting >>= further) := by
  intro tally
  show (Future.collect tally (Future.bind next plain)).Reports
    (Future.collect tally (Future.bind further reporting))
  rw [Future.collect_bind, Future.collect_bind]
  refine (first tally).bind fun ended => ?_
  obtain ⟨result, books⟩ := ended
  cases result with
  | error payload => exact Future.reports_ready _
  | ok value => exact second value books

theorem Reports.within {plain : Execution State Value}
    {reporting : Execution (State × List (Glimpse Label State)) Value} (name : String)
    (depth : Nat) (reports : Reports plain reporting) :
    Reports (within name depth plain) (within name depth reporting) := by
  intro tally
  have spanned := (reports tally).instrument name
  unfold Future.instrument at spanned
  rw [← Future.collect_withinSpan, ← Future.collect_withinSpan] at spanned
  exact spanned.send (.spanCreated name depth)

theorem reports_recount (change : Tally → Tally) :
    Reports (recount change : Execution State Unit)
      (recount change : Execution (State × List (Glimpse Label State)) Unit) :=
  fun tally others state notes =>
    Future.reports_ready (Except.ok (), change tally) others state notes

theorem congruent_reports :
    Congruent fun {_} (plain : Execution State _)
      (reporting : Execution (State × List (Glimpse Label State)) _) =>
        Reports plain reporting where
  value _ := fun _ => Future.reports_ready _
  bind := Reports.bind
  log record := fun _ => (Future.reports_ready _).send (.logged record)
  countTest := reports_recount _
  countPassed := reports_recount _
  announce _ := reports_recount _
  within name depth _ _ reports := Reports.within name depth reports

theorem reports_perform (boundary : Boundary) {plain : Action State}
    {reporting : Action (State × List (Glimpse Label State))}
    (reports : plain.call.follow.Reports reporting.call.follow) :
    Reports (perform boundary plain) (perform boundary reporting) := by
  have enclosed : (boundary.around plain.call.follow).Reports
      (boundary.around reporting.call.follow) := by
    cases boundary with
    | isolating silent => exact reports.attempt.bind fun _ => Future.reports_ready _
    | transparent => exact reports.bind fun _ => Future.reports_ready _
  intro tally others state notes
  obtain ⟨stints, reported⟩ := enclosed others state notes
  unfold perform await
  rw [Boundary.follow_enclose, Boundary.follow_enclose, Future.completeAmid_collect_onFirst,
    Future.completeAmid_collect_onFirst]
  exact ⟨stints, reported.state, congrArg (fun result => Except.ok (result, tally)) reported.result,
    reported.suspensions, reported.accounted⟩

end Execution

/-! ### Actions that report -/

/-- An action together with one that is the same action but reports on the calls in it. -/
structure Reporter (Label State : Type) where
  plain : Action State
  reporting : Action (State × List (Glimpse Label State))
  reports : plain.call.follow.Reports reporting.call.follow

/-- An action that yields a future reports as the future does. -/
theorem Future.Reports.asynchronous {plain : Future State Verdict}
    {reporting : Future (State × List (Glimpse Label State)) Verdict}
    (reports : plain.Reports reporting) :
    (Action.asynchronous (pure plain)).call.follow.Reports
      (Action.asynchronous (pure reporting)).call.follow :=
  fun others state notes => reports others state notes

/-- Any action can be watched, whatever it does: it is one call with a label. -/
def Reporter.watch (label : Label) (action : Action State) : Reporter Label State where
  plain := action
  reporting := .asynchronous (pure (.note (fun _ => .begun label)
    (action.call.follow.watched label)))
  reports := fun others state notes =>
    Future.reports_watched label action.call.follow others state notes

/-! ### Runs -/

namespace Runner

open Future

section

variable {one : Suite (Action State)} {two : Suite (Action (State × List (Glimpse Label State)))}
  {boundary : Boundary} {formatter : Formatter Kept Error} {initial : Kept}

theorem reports_abort (kept : Kept) (signals : List Signal) (payload : Payload) :
    (abort boundary kept signals payload : Future State (Conclusion Kept Error)).Reports
      (abort boundary kept signals payload :
        Future (State × List (Glimpse Label State)) (Conclusion Kept Error)) :=
  (reports_ready _).sendAll _

theorem reports_conclude (delivery : Formatter.Delivery Kept Error)
    (result : Except Payload ReportNode) (tally : Tally) :
    ((Runner.mk one boundary formatter initial).conclude delivery result tally).Reports
      ((Runner.mk two boundary formatter initial).conclude delivery result tally) := by
  unfold conclude
  cases result with
  | error payload => exact reports_abort _ _ _
  | ok root =>
    cases delivery.panic with
    | some payload => exact reports_abort _ _ _
    | none =>
      refine Reports.send _ ?_
      cases (formatter.deliver delivery (.runOutcomes (summary tally))).panic with
      | some payload => exact reports_abort _ _ _
      | none => exact (reports_ready _).sendAll _

end

variable (suite : Suite (Reporter Label State)) (boundary : Boundary)
  (formatter : Formatter Kept Error) (initial : Kept)

theorem reports_conduct :
    (Runner.mk (suite.map Reporter.plain) boundary formatter initial).conduct.Reports
      (Runner.mk (suite.map Reporter.reporting) boundary formatter initial).conduct := by
  have plainCount : (suite.map Reporter.plain).testCount = suite.testCount :=
    Group.testCount_map Reporter.plain suite.root
  have reportingCount : (suite.map Reporter.reporting).testCount = suite.testCount :=
    Group.testCount_map Reporter.reporting suite.root
  have executed : Execution.Reports
      (Execution.executeGroup boundary 0 (suite.root.map Reporter.plain))
      (Execution.executeGroup boundary 0 (suite.root.map Reporter.reporting)) :=
    Execution.congruent_reports.executeGroup 0 suite.root fun reporter _ =>
      Execution.reports_perform boundary reporter.reports
  simp only [conduct, plainCount, reportingCount]
  refine Reports.sendAll _ ?_
  cases (formatter.deliver ⟨initial, [], none⟩ (.runStart suite.testCount)).panic with
  | some payload => exact reports_abort _ _ _
  | none => exact (executed .zero).bind fun ended => reports_conclude _ _ _

theorem reports_run :
    (Runner.mk (suite.map Reporter.plain) boundary formatter initial).run.Reports
      (Runner.mk (suite.map Reporter.reporting) boundary formatter initial).run := by
  refine (reports_conduct suite boundary formatter initial).bind fun conclusion => ?_
  exact reports_ofExcept conclusion.result

end Runner

/-- An action that awaits a run of reporting actions leaves it to these to report. -/
def Reporter.awaiting (suite : Suite (Reporter Label State)) (boundary : Boundary)
    (formatter : Formatter Kept Error) (initial : Kept) (judge : Report Error → Verdict) :
    Reporter Label State where
  plain := .asynchronous (pure ((Runner.mk (suite.map plain) boundary formatter
    initial).run.bind fun report => .ready (judge report)))
  reporting := .asynchronous (pure ((Runner.mk (suite.map reporting) boundary formatter
    initial).run.bind fun report => .ready (judge report)))
  reports := .asynchronous ((Runner.reports_run suite boundary formatter initial).bind fun report =>
    Future.reports_ready (judge report))

namespace Runner

/-- Polled by hand until it returns its report or lets a panic out, while others do to the state
whatever they like between the polls, a run is polled once more than the calls in it suspend. Each
of its pauses lies between the suspension of a call and the moment in which this call goes on, in
the state that the others made of the one in which it suspended. -/
theorem suspends_with_calls (suite : Suite (Reporter Label State)) (boundary : Boundary)
    (formatter : Formatter Kept Error) (initial : Kept) (others : Nat → State → State)
    (state : State) :
    let driven := (Runner.mk (suite.map Reporter.plain) boundary formatter
      initial).run.completeAmid others state
    let reported := (Runner.mk (suite.map Reporter.reporting) boundary formatter
      initial).run.completeAmid (Glimpse.between others) (state, [])
    ∃ stints : List (Stint Label State), driven.polls = 1 + Stint.suspensions stints ∧
      reported.state = (driven.state, Stint.story others stints) ∧
      reported.result = driven.result ∧ reported.suspensions = driven.suspensions := by
  intro driven reported
  obtain ⟨stints, agree⟩ := reports_run suite boundary formatter initial others state []
  refine ⟨stints, ?_, agree.state, agree.result, agree.suspensions⟩
  exact (congrArg Nat.succ agree.accounted).trans (Nat.add_comm _ 1)

/-- A suite with a hook that suspends before each test of the root. The first test awaits a run, the
only test of which suspends twice and then panics. The test of the child panics at its second poll
without a hook around it. -/
def interrupted : Suite (Reporter String Nat) :=
  ⟨⟨none,
    [⟨"waits", .awaiting ⟨⟨none, [⟨"gone", .watch "inner" (.asynchronous (pure
          ((Future.suspend 2).bind fun () => .unwind .other)))⟩], [], .empty⟩⟩
        .standard (.silent : Formatter Unit Empty) () fun _ => .success⟩,
      ⟨"blocks", .watch "blocks" (.blocking (pure .success))⟩],
    [⟨some "child", [⟨"lost", .watch "lost" (.asynchronous (pure (.pending (.unwind .other))))⟩],
      [], .empty⟩],
    ⟨some (.watch "before" (.asynchronous (pure (.pending (.ready .success))))), none⟩⟩⟩

/-- What others do to a number between the polls of a run. -/
def meddling (turn state : Nat) : Nat := state + turn + 1

theorem suspends_with_calls_interrupted :
    ((Runner.mk (interrupted.map Reporter.plain) .transparent (.silent : Formatter Unit Empty)
        ()).run.completeAmid meddling 0).polls = 6 ∧
      ∃ stints : List (Stint String Nat), Stint.suspensions stints = 5 ∧
        Stint.story meddling stints =
          [.begun "before", .suspended "before" 0, .paused, .resumed "before" 1, .ended "before",
            .begun "inner", .suspended "inner" 1, .paused, .resumed "inner" 3,
            .suspended "inner" 3, .paused, .resumed "inner" 6, .ended "inner",
            .begun "before", .suspended "before" 6, .paused, .resumed "before" 10, .ended "before",
            .begun "blocks", .ended "blocks",
            .begun "lost", .suspended "lost" 10, .paused, .resumed "lost" 15, .ended "lost"] := by
  obtain ⟨stints, polls, told, _⟩ := suspends_with_calls interrupted .transparent
    (.silent : Formatter Unit Empty) () meddling 0
  refine ⟨rfl, stints, Nat.add_left_cancel polls.symm, ?_⟩
  exact (congrArg Prod.snd told).symm

end Runner

end TestTree
