/-
This file says when a run ends with a report, and with which.

A run reports exactly if the execution of its tree comes to a report of the root and the formatter
gets through all events of the run without a panic. The events are the story that the report of
the root tells, so everything else in the report of a run is a function of its root. What a
formatter was told of is seen by letting it work under a formatter that keeps what it is told.
-/

import TestTree.Proofs.Run.Bookkeeping
import TestTree.Run.Runner

namespace TestTree

/-! ### Formatters that get through -/

namespace Formatter

variable {State Error : Type}

/-- Nothing has been delivered yet. -/
def fresh (initial : State) : Delivery State Error := ⟨initial, [], none⟩

/-- The formatter answers each of these events without a panic. -/
def Endures (formatter : Formatter State Error) (initial : State) (events : List Event) : Prop :=
  (formatter.deliverAll (fresh initial) events).panic = none

/-- A formatter that panicked is told of nothing more. -/
theorem deliverAll_of_panic (formatter : Formatter State Error) (delivery : Delivery State Error)
    (payload : Payload) (panicked : delivery.panic = some payload) (events : List Event) :
    formatter.deliverAll delivery events = delivery := by
  induction events with
  | nil => rfl
  | cons event rest inductionHypothesis =>
    show formatter.deliverAll (formatter.deliver delivery event) rest = delivery
    have same : formatter.deliver delivery event = delivery := by
      unfold deliver
      rw [panicked]
    rw [same, inductionHypothesis]

/-- Who gets through more events got through the earlier ones. -/
theorem panic_eq_none_of_deliverAll {formatter : Formatter State Error}
    {delivery : Delivery State Error} {events : List Event}
    (through : (formatter.deliverAll delivery events).panic = none) : delivery.panic = none := by
  cases panicked : delivery.panic with
  | none => rfl
  | some payload =>
    rw [deliverAll_of_panic formatter delivery payload panicked, panicked] at through
    cases through

theorem panic_eq_none_of_deliver {formatter : Formatter State Error}
    {delivery : Delivery State Error} {event : Event}
    (through : (formatter.deliver delivery event).panic = none) : delivery.panic = none :=
  panic_eq_none_of_deliverAll (show (formatter.deliverAll delivery [event]).panic = none from through)

/-! ### Formatters that keep what they are told -/

/-- The formatter works as before and keeps every event it is told of. -/
def recording (formatter : Formatter State Error) : Formatter (State × List Event) Error :=
  ⟨fun kept event =>
    (((formatter.react kept.1 event).1, kept.2 ++ [event]), (formatter.react kept.1 event).2)⟩

/-- A recording formatter does to each event what the formatter does to it. -/
theorem deliver_recording (formatter : Formatter State Error) (delivery : Delivery State Error)
    (told : List Event) (event : Event) (calm : delivery.panic = none) :
    formatter.recording.deliver ⟨(delivery.state, told), delivery.errors, delivery.panic⟩ event =
      ⟨((formatter.deliver delivery event).state, told ++ [event]),
        (formatter.deliver delivery event).errors, (formatter.deliver delivery event).panic⟩ := by
  simp only [deliver, recording, calm]
  cases (formatter.react delivery.state event).2 <;> rfl

/-- A recording formatter that gets through has kept everything. -/
theorem deliverAll_recording (formatter : Formatter State Error) (delivery : Delivery State Error)
    (told events : List Event) (through : (formatter.deliverAll delivery events).panic = none) :
    formatter.recording.deliverAll ⟨(delivery.state, told), delivery.errors, delivery.panic⟩ events =
      ⟨((formatter.deliverAll delivery events).state, told ++ events),
        (formatter.deliverAll delivery events).errors, none⟩ := by
  induction events generalizing delivery told with
  | nil =>
    rw [List.append_nil, ← through]
    rfl
  | cons event rest inductionHypothesis =>
    have calm : delivery.panic = none := panic_eq_none_of_deliverAll through
    show formatter.recording.deliverAll (formatter.recording.deliver _ event) rest = _
    rw [deliver_recording formatter delivery told event calm, inductionHypothesis _ _ through,
      List.append_assoc, List.singleton_append]
    rfl

end Formatter

/-! ### Runs that report -/

namespace Runner

open Future Formatter

variable {State Kept Error : Type}

/-- The events of a run whose execution leaves these books. -/
def told (runner : Runner State Kept Error) (tally : Tally) : List Event :=
  .runStart runner.suite.testCount :: tally.queue ++ [.runOutcomes (summary tally)]

theorem not_yields_abort (boundary : Boundary) (formatter kept : Kept) (signals : List Signal)
    (payload : Payload) (report : Report Error) (before after : State) :
    ¬ (abort boundary formatter signals payload : Future State _).Yields before
      ⟨kept, .ok report⟩ after := by
  unfold abort
  rw [yields_sendAll_iff]
  rintro ⟨result, _⟩
  cases result

/-- Once the tree is executed, the run ends with a report if the execution came to one and the
formatter gets through the last event as well. -/
theorem yields_conclude_iff (runner : Runner State Kept Error) (delivery : Delivery Kept Error)
    (result : Except Payload ReportNode) (tally : Tally) (kept : Kept) (report : Report Error)
    (before after : State) :
    (runner.conclude delivery result tally).Yields before ⟨kept, .ok report⟩ after ↔
      ∃ root, result = .ok root ∧
        let last := runner.formatter.deliver delivery (.runOutcomes (summary tally))
        last.panic = none ∧ kept = last.state ∧ report = Runner.report root tally last ∧
          before = after := by
  cases result with
  | error payload =>
    simp only [conclude, reduceCtorEq, false_and, exists_false, iff_false]
    exact not_yields_abort _ _ _ _ _ _ _ _
  | ok root =>
    cases panicked : delivery.panic with
    | some payload =>
      have stuck : runner.formatter.deliver delivery (.runOutcomes (summary tally)) = delivery := by
        unfold deliver
        rw [panicked]
      simp only [conclude, panicked, stuck, reduceCtorEq, false_and, and_false, exists_false,
        iff_false]
      exact not_yields_abort _ _ _ _ _ _ _ _
    | none =>
      simp only [conclude, panicked, Except.ok.injEq, exists_eq_left', yields_send_iff]
      cases ending : (runner.formatter.deliver delivery (.runOutcomes (summary tally))).panic with
      | some payload =>
        simp only [reduceCtorEq, false_and, iff_false]
        exact not_yields_abort _ _ _ _ _ _ _ _
      | none =>
        simp only [yields_sendAll_iff, true_and]
        refine (yields_pure_iff _ _ before after).trans ?_
        rw [Conclusion.mk.injEq, Except.ok.injEq, and_assoc, eq_comm (a := kept),
          eq_comm (a := report)]

theorem yields_abort (boundary : Boundary) (kept : Kept) (signals : List Signal)
    (payload : Payload) (state : State) :
    (abort boundary kept signals payload : Future State (Conclusion Kept Error)).Yields state
      ⟨kept, .error payload⟩ state :=
  (yields_sendAll_iff _ _ _ state state).mpr ⟨rfl, rfl⟩

theorem exists_yields_conclude (runner : Runner State Kept Error)
    (delivery : Delivery Kept Error) (result : Except Payload ReportNode) (tally : Tally)
    (state : State) :
    ∃ conclusion, (runner.conclude delivery result tally).Yields state conclusion state := by
  cases result with
  | error payload => exact ⟨_, yields_abort _ _ _ payload state⟩
  | ok root =>
    unfold conclude
    cases delivery.panic with
    | some payload => exact ⟨_, yields_abort _ _ _ joinFailure state⟩
    | none =>
      simp only [yields_send_iff]
      cases (runner.formatter.deliver delivery (.runOutcomes (summary tally))).panic with
      | some payload => exact ⟨_, yields_abort _ _ _ payload state⟩
      | none => exact ⟨_, (yields_sendAll_iff _ _ _ state state).mpr ⟨rfl, rfl⟩⟩

/-- Whatever happens in a run, it comes to a conclusion: a panic that ends it is part of that. -/
theorem exists_yields_conduct (runner : Runner State Kept Error) (before : State) :
    ∃ conclusion after, runner.conduct.Yields before conclusion after := by
  unfold conduct
  simp only [yields_sendAll_iff]
  cases (runner.formatter.deliver ⟨runner.initial, [], none⟩
      (.runStart runner.suite.testCount)).panic with
  | some payload => exact ⟨_, before, yields_abort _ _ _ payload before⟩
  | none =>
    have started := congrArg Completed.result (complete_collect
      (Execution.executeGroup runner.boundary 0 runner.suite.root) before .zero)
    obtain ⟨conclusion, concluded⟩ := exists_yields_conclude runner _ _ _ _
    exact ⟨conclusion, _, (Yields.of_result started).bind concluded⟩

/-- A run that keeps a part of the state to itself comes to a conclusion as well. -/
theorem exists_yields_confine {Part : Type} (runner : Runner (State × Part) Kept Error)
    (own : Part) (before : State) :
    ∃ conclusion after, (runner.conduct.confine own).Yields before conclusion after := by
  obtain ⟨conclusion, ⟨after, part⟩, result, left⟩ := runner.exists_yields_conduct (before, own)
  have collected : (runner.conduct.collect own).Yields before (.ok conclusion, part) after := by
    unfold Yields
    rw [complete_collect, result, left]
    exact ⟨rfl, rfl⟩
  exact ⟨conclusion, after, collected.bind ⟨rfl, rfl⟩⟩

/-- The formatter is told of all events in one go, wherever it works through them. -/
theorem deliver_deliverAll_told (runner : Runner State Kept Error) (tally : Tally) :
    runner.formatter.deliver
        (runner.formatter.deliverAll
          (runner.formatter.deliver (fresh runner.initial) (.runStart runner.suite.testCount))
          tally.queue) (.runOutcomes (summary tally)) =
      runner.formatter.deliverAll (fresh runner.initial) (runner.told tally) := by
  show _ = runner.formatter.deliverAll _
    ([.runStart runner.suite.testCount] ++ (tally.queue ++ [.runOutcomes (summary tally)]))
  rw [deliverAll_append, deliverAll_append]
  rfl

/-- An execution that is started from nothing hands over what it comes to, with its books. -/
theorem yields_start_iff {Value : Type} (execution : Execution State Value) (value : Value)
    (tally : Tally) (before after : State) :
    execution.start.Yields before (.ok value, tally) after ↔
      execution.Yields (before, .zero) value (after, tally) := by
  unfold Execution.start Yields
  rw [complete_collect]
  simp only [Except.ok.injEq, Prod.ext_iff, and_assoc, and_comm]

/-- A run ends with a report exactly if its execution comes to one of the root and its formatter
gets through all events. -/
theorem yields_conduct_iff (runner : Runner State Kept Error) (kept : Kept)
    (report : Report Error) (before after : State) :
    runner.conduct.Yields before ⟨kept, .ok report⟩ after ↔
      ∃ root tally,
        (Execution.executeGroup runner.boundary 0 runner.suite.root).Yields (before, .zero) root
          (after, tally) ∧
        runner.formatter.Endures runner.initial (runner.told tally) ∧
        kept = (runner.formatter.deliverAll (fresh runner.initial) (runner.told tally)).state ∧
        report = Runner.report root tally
          (runner.formatter.deliverAll (fresh runner.initial) (runner.told tally)) := by
  unfold conduct
  rw [yields_sendAll_iff]
  cases opening : (runner.formatter.deliver (fresh runner.initial)
      (.runStart runner.suite.testCount)).panic with
  | some payload =>
    simp only [fresh] at opening
    simp only [opening, not_yields_abort, false_iff, not_exists, not_and]
    intro root tally _ endures
    refine absurd endures ?_
    unfold Endures
    rw [← deliver_deliverAll_told]
    intro through
    have calm := panic_eq_none_of_deliverAll (panic_eq_none_of_deliver through)
    rw [fresh, opening] at calm
    cases calm
  | none =>
    simp only [fresh] at opening
    simp only [opening]
    refine (yields_bind_iff _ _ _ before after).trans ?_
    simp only [yields_conclude_iff]
    constructor
    · rintro ⟨⟨_, tally⟩, between, started, root, rfl, through, rfl, rfl, rfl⟩
      rw [← fresh, deliver_deliverAll_told] at through ⊢
      exact ⟨root, tally, (yields_start_iff _ root tally before between).mp started, through,
        rfl, rfl⟩
    · rintro ⟨root, tally, executed, through, rfl, rfl⟩
      refine ⟨(.ok root, tally), after, (yields_start_iff _ root tally before after).mpr executed,
        root, rfl, ?_⟩
      rw [← fresh, deliver_deliverAll_told]
      exact ⟨through, rfl, rfl, rfl⟩

/-- A run returns a report exactly if it comes to the conclusion that has it. -/
theorem yields_run_iff (runner : Runner State Kept Error) (report : Report Error)
    (before after : State) :
    runner.run.Yields before report after ↔
      ∃ kept, runner.conduct.Yields before ⟨kept, .ok report⟩ after := by
  refine (yields_bind_iff _ _ report before after).trans ?_
  constructor
  · rintro ⟨⟨kept, result⟩, between, conducted, ended⟩
    cases result with
    | error payload => exact absurd ended (not_yields_unwind payload report between after)
    | ok other =>
      obtain ⟨rfl, rfl⟩ := (yields_pure_iff other report between after).mp ended
      exact ⟨kept, conducted⟩
  · rintro ⟨kept, conducted⟩
    exact ⟨⟨kept, .ok report⟩, after, conducted, (yields_pure_iff report report after after).mpr
      ⟨rfl, rfl⟩⟩

/-! ### The report of a run -/

/-- The report of a run whose root has this report: the counts are those of the outcomes, and the
errors are those with which the formatter answers the story. -/
def reportOf (runner : Runner State Kept Error) (root : ReportNode) : Report Error :=
  ⟨root, root.outcomesBelow.length, root.passedCount,
    (runner.formatter.deliverAll (fresh runner.initial) root.story).errors⟩

/-- The books of an execution and the report of its root say the same. -/
theorem told_eq_story {runner : Runner State Kept Error} {root : ReportNode} {tally : Tally}
    {before after : State}
    (executed : (Execution.executeGroup runner.boundary 0 runner.suite.root).Yields
      (before, .zero) root (after, tally)) :
    runner.told tally = root.story ∧ tally.total = root.outcomesBelow.length ∧
      tally.passed = root.passedCount := by
  obtain ⟨books, outline, _⟩ := Execution.credit_executeGroup runner.suite.root executed
  have books : tally = Tally.zero.credit root.outcomesBelow (root.events 0) := books
  have counted : runner.suite.testCount = root.outcomesBelow.length :=
    (ReportNode.length_outcomesBelow runner.suite.root root outline).symm
  subst books
  simp only [told, counted, summary, Tally.credit, Tally.zero, Nat.zero_add, List.nil_append]
  exact ⟨rfl, trivial, rfl⟩

/-- A run returns a report exactly if its execution comes to a report of the root and its
formatter gets through the story of that root, and then the root determines the report. -/
theorem yields_run_root_iff (runner : Runner State Kept Error) (report : Report Error)
    (before after : State) :
    runner.run.Yields before report after ↔
      ∃ root tally,
        (Execution.executeGroup runner.boundary 0 runner.suite.root).Yields (before, .zero) root
          (after, tally) ∧
        runner.formatter.Endures runner.initial root.story ∧ report = runner.reportOf root := by
  simp only [yields_run_iff, yields_conduct_iff]
  constructor
  · rintro ⟨_, root, tally, executed, endures, _, rfl⟩
    obtain ⟨story, total, passed⟩ := told_eq_story executed
    rw [story] at endures ⊢
    refine ⟨root, tally, executed, endures, ?_⟩
    rw [Runner.report, total, passed, reportOf]
  · rintro ⟨root, tally, executed, endures, rfl⟩
    obtain ⟨story, total, passed⟩ := told_eq_story executed
    refine ⟨_, root, tally, executed, by rwa [story], rfl, ?_⟩
    rw [Runner.report, total, passed, reportOf, story]

/-! ### What a formatter was told of -/

/-- The same run with a formatter that keeps what it is told. -/
def recorded (runner : Runner State Kept Error) : Runner State (Kept × List Event) Error :=
  ⟨runner.suite, runner.boundary, runner.formatter.recording, (runner.initial, [])⟩

/-- The events that the formatter of a run is told of. -/
def delivered (runner : Runner State Kept Error) (state : State) : List Event :=
  match (runner.recorded.conduct.complete state).result with
  | .ok conclusion => conclusion.formatter.2
  | .error _ => []

/-- The formatter of a run that returns a report was told the story of its root. -/
theorem delivered_eq_story {runner : Runner State Kept Error} {report : Report Error}
    {before after : State} (returned : runner.run.Yields before report after) :
    runner.delivered before = report.root.story := by
  obtain ⟨root, tally, executed, endures, rfl⟩ :=
    (yields_run_root_iff runner report before after).mp returned
  obtain ⟨story, _, _⟩ := told_eq_story executed
  have kept := deliverAll_recording runner.formatter (fresh runner.initial) [] root.story endures
  have conducted := (yields_conduct_iff runner.recorded _ _ before after).mpr
    ⟨root, tally, executed, by
      show (runner.formatter.recording.deliverAll _ (runner.told tally)).panic = none
      rw [story]
      exact congrArg Delivery.panic kept, rfl, rfl⟩
  unfold delivered
  rw [conducted.1]
  show ((runner.formatter.recording.deliverAll _ (runner.told tally)).state).2 = root.story
  rw [story]
  exact congrArg (fun delivery => delivery.state.2) kept

/-! ### Runs that panic -/

/-- A run whose execution unwinds concludes with the payload. Its formatter was told of the start
and of what was queued until then. -/
theorem yields_conduct_of_unwinds {runner : Runner State Kept Error} {payload : Payload}
    {tally : Tally} {before after : State}
    (unwinds : (Execution.executeGroup runner.boundary 0 runner.suite.root).Unwinds
      (before, .zero) payload (after, tally))
    (endures : runner.formatter.Endures runner.initial
      (.runStart runner.suite.testCount :: tally.queue)) :
    runner.conduct.Yields before
      ⟨(runner.formatter.deliverAll (fresh runner.initial)
        (.runStart runner.suite.testCount :: tally.queue)).state, .error payload⟩ after := by
  have calm : (runner.formatter.deliver (fresh runner.initial)
      (.runStart runner.suite.testCount)).panic = none := panic_eq_none_of_deliverAll endures
  simp only [fresh] at calm
  unfold conduct
  rw [yields_sendAll_iff]
  simp only [calm]
  have started : (Execution.executeGroup runner.boundary 0 runner.suite.root).start.Yields before
      (.error payload, tally) after := by
    obtain ⟨result, left⟩ := unwinds
    unfold Execution.start Yields
    rw [complete_collect, result, left]
    exact ⟨rfl, rfl⟩
  exact started.bind (yields_abort _ _ _ payload after)

theorem unwinds_run {runner : Runner State Kept Error} {payload : Payload} {tally : Tally}
    {before after : State}
    (unwinds : (Execution.executeGroup runner.boundary 0 runner.suite.root).Unwinds
      (before, .zero) payload (after, tally))
    (endures : runner.formatter.Endures runner.initial
      (.runStart runner.suite.testCount :: tally.queue)) :
    runner.run.Unwinds before payload after :=
  (yields_conduct_of_unwinds unwinds endures).bind_unwinds ⟨rfl, rfl⟩

theorem delivered_of_unwinds {runner : Runner State Kept Error} {payload : Payload}
    {tally : Tally} {before after : State}
    (unwinds : (Execution.executeGroup runner.boundary 0 runner.suite.root).Unwinds
      (before, .zero) payload (after, tally))
    (endures : runner.formatter.Endures runner.initial
      (.runStart runner.suite.testCount :: tally.queue)) :
    runner.delivered before = .runStart runner.suite.testCount :: tally.queue := by
  have kept := deliverAll_recording runner.formatter (fresh runner.initial) []
    (.runStart runner.suite.testCount :: tally.queue) endures
  have conducted : runner.recorded.conduct.Yields before _ after :=
    yields_conduct_of_unwinds unwinds (congrArg Delivery.panic kept)
  unfold delivered
  rw [conducted.1]
  exact congrArg (fun delivery => delivery.state.2) kept

end Runner

end TestTree
